import StoryCatalog.Proofs.Story.Extractions
import StoryCatalog.Proofs.Story.RawSources
import StoryCatalog.Proofs.Tree.Retagging

/-!
# The marker tag is immaterial

The tag of the markers tells them from other components and does nothing else. If the markers of a document get
another name that no component of the document has, and are looked for under this name, the extraction takes
the same course.

* `MarkupNode.marker?_retag`, `Fragment.outside_retag`: the renamed markers are the markers under the new tag,
  and the same lies outside of them.
* `RawSource.recover_retag`: each has the same source.
* `catalogBy_retag`: so the catalog, or the cause of a failure, is the same.
-/

namespace StoryCatalog

open Rose

/-- A document with its `old` components named `new`. -/
def Document.retag (old new : String) (d : Document) : Document :=
  { d with root := d.root.retag old new }

/-- What the source of a story depends on, with the `old` components of the document named `new`. -/
def RawSource.retag (old new : String) (r : RawSource) : RawSource :=
  { r with document := r.document.retag old new }

variable (old new : String)

/-! ## Markers -/

namespace MarkupNode

variable {old new}

/-- A renamed node is a marker under the new tag if the node is one under the old tag, unless it was one under
the new tag before. -/
theorem marker?_retag {n : MarkupNode} (h : n.marker? new = none) :
    (n.retag old new).marker? new = (n.marker? old).map (·.retag old new .component) := by
  rcases n with _ | _ | _ | ⟨_ | _ | _, e⟩ | _ | _ | _ | _ | _ | _
  case element.component =>
    obtain ⟨span, name, as, f⟩ := e
    have other : name ≠ new := by
      rintro rfl
      simp [marker?] at h
    by_cases ho : name = old
    · simp [retag, Element.retag, retaggedName, marker?, ho]
    · simp [retag, Element.retag, retaggedName, marker?, ho, other]
  all_goals rfl

theorem isMarker_retag (n : MarkupNode) :
    (n.retag old new).isMarker new = (n.isMarker old || n.isMarker new) := by
  rcases n with _ | _ | _ | ⟨_ | _ | _, e⟩ | _ | _ | _ | _ | _ | _
  case element.component =>
    obtain ⟨span, name, as, f⟩ := e
    by_cases ho : name = old
    · simp [retag, Element.retag, retaggedName, isMarker, marker?, ho]
    · by_cases hn : name = new <;>
        simp [retag, Element.retag, retaggedName, isMarker, marker?, ho, hn]
  all_goals rfl

end MarkupNode

variable {old new}

/-- No node of a list of trees is a marker exactly if no component has the tag as its name. -/
theorem forall_isMarker_eq_false_iff {tag : String} {ts : List (Rose MarkupNode)} :
    (∀ n ∈ preorderAll ts, n.isMarker tag = false) ↔
      ∀ e, MarkupNode.element .component e ∈ preorderAll ts → e.name ≠ tag := by
  constructor
  · intro h e he name
    have hm := h _ he
    simp [MarkupNode.isMarker, MarkupNode.marker?, name] at hm
  · intro h n hn
    rw [MarkupNode.isMarker, Option.isSome_eq_false_iff, Option.isNone_iff_eq_none,
      Option.eq_none_iff_forall_ne_some]
    intro e he
    obtain ⟨rfl, name⟩ := MarkupNode.marker?_eq_some_iff.mp he
    exact h e hn name

/-- **Outside the renamed markers** lies what lies outside the markers, if no component had the new name. -/
theorem Fragment.outside_retag {f : Fragment}
    (h : ∀ n ∈ preorderAll f.trees, n.isMarker new = false) :
    (f.retag old new).outside new = (f.outside old).map (·.retag old new) := by
  have same : reachAll (fun n => n.isMarker old || n.isMarker new) f.trees =
      reachAll (·.isMarker old) f.trees := by
    refine reachAll_congr fun n hn => ?_
    rw [h n (reachAll_subset _ _ hn), Bool.or_false]
  rw [outside_eq_reachAll, outside_eq_reachAll, f.trees_retag,
    reachAll_mapAll (p := fun n => n.isMarker old || n.isMarker new) MarkupNode.isMarker_retag, same]

variable (old new)

/-! ## What a marker says -/

namespace Element

variable (form : ElementForm) (e : Element)

theorem attribute?_retag (name : String) :
    (e.retag old new form).attribute? name = e.attribute? name := by
  rw [attribute?, attributes_retag, ← attribute?]

theorem staticValue_retag (name : String) :
    (e.retag old new form).staticValue name = e.staticValue name := by
  rw [staticValue, attribute?_retag, ← staticValue]

theorem text?_retag (file name : String) : (e.retag old new form).text? file name = e.text? file name := by
  rw [text?, staticValue_retag, ← text?]

theorem source?_retag (file : String) : (e.retag old new form).source? file = e.source? file := by
  rw [source?, staticValue_retag, ← source?]

theorem childrenSnippet?_retag :
    (e.retag old new form).childrenSnippet? = e.childrenSnippet? := by
  unfold childrenSnippet? expression?
  rw [attribute?_retag]

end Element

/-- The first of some renamed snippets with a name. -/
theorem find?_name_retag (ss : List Snippet) (name : String) :
    (ss.map (·.retag old new)).find? (·.name == name) =
      (ss.find? (·.name == name)).map (·.retag old new) := by
  rw [List.find?_map]
  simp only [Function.comp_def, Snippet.name_retag]

namespace RawSource

variable (r : RawSource)

theorem snippets_retag (f : Fragment) :
    snippets (f.retag old new) = (snippets f).map (·.retag old new) := by
  rw [snippets_eq, snippets_eq, f.trees_retag, preorderAll_mapAll, List.filterMap_map,
    List.map_filterMap]
  exact List.filterMap_congr fun n _ => n.snippet?_retag old new

theorem findSnippet_retag (name story : String) :
    (r.retag old new).findSnippet name story = (r.findSnippet name story).map (·.retag old new) := by
  have found : (snippets (r.retag old new).document.root.fragment).find? (·.name == name) =
      ((snippets r.document.root.fragment).find? (·.name == name)).map (·.retag old new) := by
    rw [← find?_name_retag, ← snippets_retag]
    rfl
  rw [findSnippet, findSnippet, found]
  cases (snippets r.document.root.fragment).find? (·.name == name) <;> rfl

theorem body_retag (f : Fragment) : (r.retag old new).body (f.retag old new) = r.body f := by
  unfold body
  rw [f.contentSpan_retag]
  rfl

theorem inlineChildren?_retag (f : Fragment) :
    inlineChildren? (f.retag old new) = (inlineChildren? f).map (·.retag old new) := by
  have snippets : (f.retag old new).nodes.filterMap (·.snippet?) =
      (f.nodes.filterMap (·.snippet?)).map (·.retag old new) := by
    rw [f.nodes_retag, List.filterMap_map, List.map_filterMap]
    exact List.filterMap_congr fun n _ => n.snippet?_retag old new
  rw [inlineChildren?, snippets, find?_name_retag, ← inlineChildren?]

theorem isSelfClosing_retag (d : Document) (form : ElementForm) (e : Element) :
    (d.retag old new).isSelfClosing (e.retag old new form) = d.isSelfClosing e := by
  unfold Document.isSelfClosing
  rw [e.span_retag]
  rfl

/-- **A renamed marker has the source of the marker.** -/
theorem recover_retag (form : ElementForm) (e : Element) (story : String) :
    (r.retag old new).recover (e.retag old new form) story = r.recover e story := by
  have closing : (r.retag old new).document.isSelfClosing (e.retag old new form) =
      r.document.isSelfClosing e := isSelfClosing_retag old new r.document form e
  have standIn : (r.retag old new).standIn? (e.retag old new form) = r.standIn? e := by
    unfold standIn?
    rw [e.childrenSnippet?_retag]
    rfl
  unfold recover
  rw [closing]
  cases r.document.isSelfClosing e with
  | error c => rfl
  | ok closes =>
    cases closes with
    | true =>
      rw [standIn]
      cases r.standIn? e with
      | none => rfl
      | some name =>
        change ((r.retag old new).findSnippet name story >>= fun s => (r.retag old new).body s.body) =
          r.findSnippet name story >>= fun s => r.body s.body
        rw [findSnippet_retag]
        cases r.findSnippet name story with
        | error c => rfl
        | ok s => exact (congrArg _ (s.body_retag old new)).trans (r.body_retag old new s.body)
    | false =>
      rw [e.fragment_retag, inlineChildren?_retag]
      cases inlineChildren? e.fragment with
      | none => exact r.body_retag old new e.fragment
      | some s => exact (congrArg _ (s.body_retag old new)).trans (r.body_retag old new s.body)

end RawSource

/-! ## The course of an extraction -/

namespace Extraction

variable (r : RawSource)

theorem storyName_retag (file : String) (form : ElementForm) (e : Element) :
    storyName file (e.retag old new form) = storyName file e := by
  unfold storyName
  rw [e.text?_retag, e.span_retag]

/-- A renamed marker adds what the marker adds. -/
theorem readMarker_retag (form : ElementForm) (x : Extraction) (e : Element) :
    x.readMarker ⟨new, r.retag old new⟩ (e.retag old new form) = x.readMarker ⟨old, r⟩ e := by
  unfold readMarker
  simp only [storyName_retag, e.text?_retag, e.source?_retag, e.span_retag, r.recover_retag]
  rfl

/-- **A renamed node outside the markers** does under the new tag what the node does under the old one. -/
theorem act_retag {n : MarkupNode} (h : n.isMarker new = false) (x : Extraction) :
    act ⟨new, r.retag old new⟩ x (n.retag old new) = act ⟨old, r⟩ x n := by
  have none_new : n.marker? new = none := Option.isSome_eq_false_iff.mp h |> Option.isNone_iff_eq_none.mp
  unfold act
  simp only [MarkupNode.marker?_retag none_new]
  cases n.marker? old with
  | some e => exact readMarker_retag old new r .component x e
  | none => cases n <;> rfl

theorem foldlM_act_retag {ns : List MarkupNode} (h : ∀ n ∈ ns, n.isMarker new = false)
    (x : Extraction) :
    (ns.map (·.retag old new)).foldlM (act ⟨new, r.retag old new⟩) x = ns.foldlM (act ⟨old, r⟩) x := by
  induction ns generalizing x with
  | nil => rfl
  | cons n ns ih =>
    obtain ⟨hn, hns⟩ := List.forall_mem_cons.mp h
    rw [List.map_cons, List.foldlM_cons, List.foldlM_cons, act_retag old new r hn]
    cases act ⟨old, r⟩ x n with
    | error c => rfl
    | ok y => exact ih hns y

end Extraction

/-- **The marker tag is immaterial.** If no component of a document has a name, and the markers of the document
get this name, offsets and text unchanged, then the extraction that looks for markers under the new name has
the result of the one that looks for them under the old name: the same catalog with the same warnings, or the
same cause of failure. -/
theorem catalogBy_retag (d : Document) (hash : HashKind) (unifiesIds : Bool)
    (templateSnippet component : Option String)
    (h : ∀ e, MarkupNode.element .component e ∈ preorderAll d.root.fragment.trees → e.name ≠ new) :
    (d.retag old new).catalogBy hash unifiesIds
        ⟨new, ⟨d.retag old new, templateSnippet, component, .dedent⟩⟩ =
      d.catalogBy hash unifiesIds ⟨old, ⟨d, templateSnippet, component, .dedent⟩⟩ := by
  have unnamed := forall_isMarker_eq_false_iff.mpr h
  have outside : (d.retag old new).root.fragment.outside new =
      (d.root.fragment.outside old).map (·.retag old new) := Fragment.outside_retag unnamed
  have within : ∀ n ∈ d.root.fragment.outside old, n.isMarker new = false := by
    intro n hn
    rw [outside_eq_reachAll] at hn
    exact unnamed n (reachAll_subset _ _ hn)
  rw [catalogBy_eq, catalogBy_eq, outside]
  exact congrArg _ (Extraction.foldlM_act_retag old new
    ⟨d, templateSnippet, component, .dedent⟩ within (.start d.file hash unifiesIds))

/-- No component of the two stories has the name `Tale`, so they are found under it. -/
theorem catalogBy_retag_twoStories :
    (∀ e, MarkupNode.element .component e ∈ preorderAll twoStories.root.fragment.trees →
      e.name ≠ "Tale") ∧
    ((twoStories.retag "Story" "Tale").catalogBy .fold false
        ⟨"Tale", ⟨twoStories.retag "Story" "Tale", none, none, .dedent⟩⟩).map (·.names) =
      .ok ["A", "B"] := by
  have unnamed : ∀ e, MarkupNode.element .component e ∈ preorderAll twoStories.root.fragment.trees →
      e.name ≠ "Tale" := by
    have none_marked : (preorderAll twoStories.root.fragment.trees).all
        (fun n => !n.isMarker "Tale") = true := rfl
    exact forall_isMarker_eq_false_iff.mp (by simpa using none_marked)
  refine ⟨unnamed, ?_⟩
  rw [catalogBy_retag "Story" "Tale" twoStories .fold false none none unnamed]
  rfl

end StoryCatalog
