import Mathlib.Data.List.Basic
import StoryCatalog.Story.Index
import StoryCatalog.Proofs.Story.Markers

/-!
# Landmarks of an index

An index stops at markers and, where they are recognized, at meta elements. These are its landmarks. It does
not look inside a landmark, and everything else it passes through.

* `indexBy_eq`: the index of a document is what `Indexing.pass` makes of its landmarks, one after the other.
* `markersOf_landmarks`: if no marker lies in a meta element, the markers among the landmarks are all the
  markers of the markup.
-/

namespace StoryCatalog

open Rose

/-- What an index stops at. -/
inductive Landmark where
  | marker (e : Element)
  | info (e : Element)

/-- The marker that a landmark is. -/
def Landmark.marker? : Landmark → Option Element
  | marker e => some e
  | info _ => none

/-- The landmark that a markup node is. A component with both tags is a marker. -/
def MarkupNode.landmark? (markerTag : String) (metaTag : Option String) : MarkupNode → Option Landmark
  | .element .component e =>
    if e.name = markerTag then some (.marker e)
    else if metaTag = some e.name then some (.info e)
    else none
  | _ => none

/-- Whether a markup node is a landmark. -/
def MarkupNode.isLandmark (markerTag : String) (metaTag : Option String) (n : MarkupNode) : Bool :=
  (n.landmark? markerTag metaTag).isSome

/-- The landmarks of a fragment that lie in no other landmark, in preorder. -/
def Fragment.landmarks (markerTag : String) (metaTag : Option String) (f : Fragment) : List Landmark :=
  ((places f.trees).filter (·.isClear (·.isLandmark markerTag metaTag))).filterMap
    (·.value.landmark? markerTag metaTag)

/-- The markers among landmarks. -/
def markersOf (ls : List Landmark) : List Element :=
  ls.filterMap (·.marker?)

theorem landmarks_eq (markerTag : String) (metaTag : Option String) (f : Fragment) :
    f.landmarks markerTag metaTag =
      (reachAll (·.isLandmark markerTag metaTag) f.trees).filterMap (·.landmark? markerTag metaTag) := by
  rw [← filter_isClear_places, List.filterMap_map]
  rfl

/-! ## What an index does -/

namespace Indexing

/-- The index after a landmark. -/
def pass (plan : IndexPlan) (x : Indexing) : Landmark → Except Failure Indexing
  | .marker e => x.readMarker plan e
  | .info e => x.readMeta plan e

/-- The index after a markup node outside the landmarks. -/
def act (plan : IndexPlan) (x : Indexing) (n : MarkupNode) : Except Failure Indexing :=
  match n.landmark? plan.markerTag plan.metaTag with
  | some l => x.pass plan l
  | none => .ok x

/-- An index passes through everything in markup that is no markup node. -/
theorem ignores_visit (plan : IndexPlan) :
    Ignores Node.IsInner Node.markup? (visit plan) fun k n x => visit plan k (.markup n) x where
  through := by
    intro k n x hn hm
    cases n with
    | root | script | program => exact hn.elim
    | markup => cases hm
    | _ => rfl
  image := by
    intro k n m x hm
    cases n with
    | markup =>
      cases hm
      rfl
    | _ => cases hm

/-- An index settles each landmark as `pass` says, and goes on below anything else. -/
theorem visit_markup (plan : IndexPlan) (n : MarkupNode) (x : Indexing) :
    visit plan () (.markup n) x =
      match n.landmark? plan.markerTag plan.metaTag with
      | some l => x.settled (x.pass plan l)
      | none => (x, .descend ()) := by
  rcases n with _ | _ | _ | ⟨_ | _ | _, e⟩ | _ | _ | _ | _ | _ | _
  case element.component =>
    unfold visit MarkupNode.landmark?
    by_cases hm : e.name = plan.markerTag
    · simp [hm, pass]
    · by_cases hi : plan.metaTag = some e.name
      · simp [hm, hi, pass]
      · simp [hm, hi]
  all_goals rfl

theorem follows_visit (plan : IndexPlan) :
    Follows (fun k n x => visit plan k (.markup n) x) (act plan)
      (·.isLandmark plan.markerTag plan.metaTag) where
  ok := by
    intro x n y h
    rw [visit_markup]
    unfold act at h
    unfold MarkupNode.isLandmark
    cases hl : n.landmark? plan.markerTag plan.metaTag with
    | some l =>
      rw [hl] at h
      simp only at h
      simp [settled, h]
    | none =>
      rw [hl] at h
      cases h
      rfl
  error := by
    intro x n c h
    rw [visit_markup]
    unfold act at h
    cases hl : n.landmark? plan.markerTag plan.metaTag with
    | some l =>
      rw [hl] at h
      simp only at h
      simp [settled, h]
    | none =>
      rw [hl] at h
      cases h

/-- Only the landmarks matter. -/
theorem foldlM_act (plan : IndexPlan) (x : Indexing) (ns : List MarkupNode) :
    ns.foldlM (act plan) x =
      (ns.filterMap (·.landmark? plan.markerTag plan.metaTag)).foldlM (pass plan) x := by
  induction ns generalizing x with
  | nil => rfl
  | cons n ns ih =>
    rw [List.foldlM_cons, act]
    cases hl : n.landmark? plan.markerTag plan.metaTag with
    | some l =>
      rw [List.filterMap_cons_some hl, List.foldlM_cons]
      simp only [ih]
    | none =>
      rw [List.filterMap_cons_none hl, ← ih]
      rfl

end Indexing

/-- **The index of a document is a fold over its landmarks.** -/
theorem indexBy_eq (d : Document) (plan : IndexPlan) (info : IndexedMeta) :
    d.indexBy plan info =
      ((d.root.fragment.landmarks plan.markerTag plan.metaTag).foldlM (Indexing.pass plan)
        (.start d.file info)).map fun x => ⟨x.info, x.stories.reverse⟩ := by
  have ha := answer_walk_outline (fun _ _ => rfl) (fun _ _ => rfl) (Indexing.ignores_visit plan)
    (Indexing.follows_visit plan) d.root (.start d.file info)
  rw [landmarks_eq, ← Indexing.foldlM_act, ← ha]
  unfold Document.indexBy
  rcases d.root.outline.walk (Indexing.visit plan) () (.start d.file info) with ⟨x, _ | c⟩ <;> rfl

/-! ## Markers and meta elements -/

theorem MarkupNode.isMarker_iff {tag : String} {n : MarkupNode} :
    n.isMarker tag = true ↔ ∃ e, n = .element .component e ∧ e.name = tag := by
  rw [isMarker, Option.isSome_iff_exists]
  simp only [marker?_eq_some_iff]

/-- The landmarks are the markers and, where they are recognized, the meta elements. -/
theorem MarkupNode.isLandmark_iff {markerTag : String} {metaTag : Option String} {n : MarkupNode} :
    n.isLandmark markerTag metaTag = true ↔
      n.isMarker markerTag = true ∨ ∃ tag, metaTag = some tag ∧ n.isMarker tag = true := by
  simp only [isMarker_iff]
  rcases n with _ | _ | _ | ⟨_ | _ | _, e⟩ | _ | _ | _ | _ | _ | _
  case element.component =>
    unfold isLandmark landmark?
    by_cases hm : e.name = markerTag
    · simp [hm]
    · by_cases hi : metaTag = some e.name <;> simp [hm, hi]
  all_goals simp [isLandmark, landmark?]

end StoryCatalog
