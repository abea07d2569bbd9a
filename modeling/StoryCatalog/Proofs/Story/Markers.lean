import StoryCatalog.Story.Extraction
import StoryCatalog.Proofs.Tree.MarkupTrees

/-!
# Markers

A marker is a component with the marker tag that lies in no other such component. The extraction of a
document walks over the whole tree; what it sees of it are the nodes of the markup that lie in no
marker, in preorder.

* `catalogBy_eq`: the catalog of a document is what `Extraction.act` makes of the nodes outside the
  markers, one after the other.
* `map_fst_sightings`: each marker is seen once, with the latest comment since the marker before it.
-/

namespace StoryCatalog

open Rose

/-- The component that a markup node is, if it has a name. -/
def MarkupNode.marker? (tag : String) : MarkupNode → Option Element
  | .element .component e => if e.name = tag then some e else none
  | _ => none

/-- Whether a markup node is a component with a name. -/
def MarkupNode.isMarker (tag : String) (n : MarkupNode) : Bool :=
  (n.marker? tag).isSome

/-- The markup nodes of a fragment that lie in no component with a name, in preorder. -/
def Fragment.outside (tag : String) (f : Fragment) : List MarkupNode :=
  ((places f.trees).filter (·.isClear (·.isMarker tag))).map (·.value)

/-- The components with a name that lie in no other such component, in preorder. -/
def Fragment.markers (tag : String) (f : Fragment) : List Element :=
  (f.outside tag).filterMap (·.marker? tag)

theorem MarkupNode.marker?_eq_some_iff {tag : String} {n : MarkupNode} {e : Element} :
    n.marker? tag = some e ↔ n = .element .component e ∧ e.name = tag := by
  rcases n with _ | _ | _ | ⟨_ | _ | _, e'⟩ | _ | _ | _ | _ | _ | _ <;> simp [marker?]
  constructor
  · rintro ⟨hn, rfl⟩
    exact ⟨rfl, hn⟩
  · rintro ⟨rfl, hn⟩
    exact ⟨hn, rfl⟩

theorem outside_eq_reachAll (tag : String) (f : Fragment) :
    f.outside tag = reachAll (·.isMarker tag) f.trees :=
  filter_isClear_places _ f.trees

/-! ## What an extraction does -/

namespace Extraction

/-- The extraction after a markup node outside the markers. -/
def act (plan : ExtractionPlan) (x : Extraction) (n : MarkupNode) : Except Failure Extraction :=
  match n.marker? plan.markerTag with
  | some e => x.readMarker plan e
  | none =>
    match n with
    | .comment c => .ok { x with comments := x.comments.track c }
    | _ => .ok x

/-- An extraction passes through everything in markup that is no markup node. -/
theorem ignores_visit (plan : ExtractionPlan) :
    Ignores Node.IsInner Node.markup? (visit plan) fun k n x => visit plan k (.markup n) x where
  through := by
    intro k n x hn hm
    cases n with
    | root | script | program => exact hn.elim
    | markup => cases hm
    | _ => rfl
  image := by
    intro k n m x hm
    cases n with
    | markup =>
      cases hm
      rfl
    | _ => cases hm

theorem follows_visit (plan : ExtractionPlan) :
    Follows (fun k n x => visit plan k (.markup n) x) (act plan)
      (fun n => n.isMarker plan.markerTag || n.isComment) where
  ok := by
    intro x n y h
    unfold act at h
    cases hm : n.marker? plan.markerTag with
    | some e =>
      rw [hm] at h
      simp only at h
      obtain ⟨rfl, hn⟩ := MarkupNode.marker?_eq_some_iff.mp hm
      simp [visit, hn, h, MarkupNode.isMarker, hm]
    | none =>
      rw [hm] at h
      rcases n with _ | _ | _ | ⟨_ | _ | _, e⟩ | _ | _ | _ | _ | _ | _ <;> cases h <;>
        simp_all [visit, MarkupNode.isMarker, MarkupNode.isComment, MarkupNode.marker?]
  error := by
    intro x n c h
    unfold act at h
    cases hm : n.marker? plan.markerTag with
    | some e =>
      rw [hm] at h
      simp only at h
      obtain ⟨rfl, hn⟩ := MarkupNode.marker?_eq_some_iff.mp hm
      simp [visit, hn, h]
    | none =>
      rw [hm] at h
      rcases n with _ | _ | _ | ⟨_ | _ | _, e⟩ | _ | _ | _ | _ | _ | _ <;> cases h

end Extraction

/-- **The catalog of a document is a fold over the markup outside its markers.** -/
theorem catalogBy_eq (d : Document) (hash : HashKind) (unifiesIds : Bool) (plan : ExtractionPlan) :
    d.catalogBy hash unifiesIds plan =
      ((d.root.fragment.outside plan.markerTag).foldlM (Extraction.act plan)
        (.start d.file hash unifiesIds)).map (·.catalog) := by
  have ha := answer_walk_outline (fun _ _ => rfl) (fun _ _ => rfl) (Extraction.ignores_visit plan)
    (Extraction.follows_visit plan) d.root (.start d.file hash unifiesIds)
  rw [reachAll_isComment] at ha
  rw [outside_eq_reachAll, ← ha]
  unfold Document.catalogBy
  rcases d.root.outline.walk (Extraction.visit plan) () (.start d.file hash unifiesIds) with ⟨x, _ | c⟩ <;> rfl

/-! ## Comments before markers -/

/-- The latest comment after a markup node outside the markers; a marker leaves none. -/
def MarkupNode.latestComment (tag : String) (latest : Option Comment) (n : MarkupNode) :
    Option Comment :=
  match n with
  | .comment c => some c
  | n => if n.isMarker tag then none else latest

/-- The markers among the nodes outside the markers, each with the latest comment since the marker
before it. -/
def sightings (tag : String) (latest : Option Comment) :
    List MarkupNode → List (Element × Option Comment)
  | [] => []
  | n :: ns =>
    match n.marker? tag with
    | some e => (e, latest) :: sightings tag none ns
    | none => sightings tag (n.latestComment tag latest) ns

/-- The markers of a fragment, each with the latest comment since the marker before it. -/
def Fragment.sightings (tag : String) (f : Fragment) : List (Element × Option Comment) :=
  StoryCatalog.sightings tag none (f.outside tag)

theorem map_fst_sightings (tag : String) (latest : Option Comment) (ns : List MarkupNode) :
    (sightings tag latest ns).map (·.1) = ns.filterMap (·.marker? tag) := by
  induction ns generalizing latest with
  | nil => rfl
  | cons n ns ih =>
    rw [sightings]
    cases h : n.marker? tag with
    | some e => rw [List.filterMap_cons_some h, List.map_cons, ih]
    | none => rw [List.filterMap_cons_none h, ih]

/-- What comes after markup nodes does not matter for the markers among them. -/
theorem sightings_prefix (tag : String) (latest : Option Comment) (ns more : List MarkupNode) :
    sightings tag latest ns <+: sightings tag latest (ns ++ more) := by
  induction ns generalizing latest with
  | nil => exact List.nil_prefix
  | cons n ns ih =>
    rw [List.cons_append, sightings, sightings]
    cases n.marker? tag with
    | some e => exact (List.prefix_cons_inj _).mpr (ih none)
    | none => exact ih _

theorem latestComment_of_marker? {tag : String} {n : MarkupNode} {e : Element}
    (h : n.marker? tag = some e) (latest : Option Comment) : n.latestComment tag latest = none := by
  have hm : n.isMarker tag = true := by rw [MarkupNode.isMarker, h]; rfl
  obtain ⟨rfl, -⟩ := MarkupNode.marker?_eq_some_iff.mp h
  exact if_pos hm

end StoryCatalog
