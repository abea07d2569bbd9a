import StoryCatalog.Proofs.Story.Agreement
import StoryCatalog.Proofs.Story.TextArrays

/-!
# The title and the tags of an index

An index starts with the title and the tags of the meta object, the argument of `defineMeta` before an exported
`meta`. In the older dialect each meta element replaces those of the two that it gives, so of the elements that an
index comes to, the last one with the attribute counts, for the title and for the tags by themselves.

* `infosOf_landmarks`: the meta elements that an index comes to.
* `info_of_pass`, `info_of_run`: what one landmark, and what many, one after the other, make of title and tags.
* `meta_of_index`: the title and the tags of an index.
-/

namespace StoryCatalog

open Rose

/-! ## Meta elements -/

/-- The meta element that a landmark is. -/
def Landmark.info? : Landmark → Option Element
  | marker _ => none
  | info e => some e

/-- The meta elements among landmarks. -/
def infosOf (ls : List Landmark) : List Element :=
  ls.filterMap (·.info?)

/-- The components of a fragment with the tag of meta elements and not that of markers which lie in no component with
either tag, in preorder. -/
def Fragment.metaElements (markerTag metaTag : String) (f : Fragment) : List Element :=
  ((places f.trees).filter fun x => x.isClear (·.isMarker markerTag) && x.isClear (·.isMarker metaTag)).filterMap
    fun x => if x.value.isMarker markerTag then none else x.value.marker? metaTag

theorem MarkupNode.bind_info?_landmark? (markerTag metaTag : String) (n : MarkupNode) :
    (n.landmark? markerTag (some metaTag)).bind (·.info?) =
      if n.isMarker markerTag then none else n.marker? metaTag := by
  rcases n with _ | _ | _ | ⟨_ | _ | _, e⟩ | _ | _ | _ | _ | _ | _
  case element.component =>
    unfold landmark? isMarker marker?
    by_cases hm : e.name = markerTag
    · simp [hm, Landmark.info?]
    · by_cases hi : metaTag = e.name
      · simp [hm, hi, Landmark.info?]
      · simp [hm, hi, Ne.symm hi, Landmark.info?]
  all_goals rfl

theorem MarkupNode.isLandmark_eq (markerTag metaTag : String) (n : MarkupNode) :
    n.isLandmark markerTag (some metaTag) = (n.isMarker markerTag || n.isMarker metaTag) := by
  rw [Bool.eq_iff_iff, isLandmark_iff, Bool.or_eq_true]
  simp

/-- **The meta elements that an index comes to** lie outside markers and outside other meta elements. -/
theorem infosOf_landmarks (markerTag metaTag : String) (f : Fragment) :
    infosOf (f.landmarks markerTag (some metaTag)) = f.metaElements markerTag metaTag := by
  unfold infosOf Fragment.landmarks Fragment.metaElements
  rw [List.filterMap_filterMap]
  simp only [MarkupNode.bind_info?_landmark?]
  congr 1
  refine List.filter_congr fun x _ => ?_
  rw [Bool.eq_iff_iff]
  simp [Place.isClear, MarkupNode.isLandmark_eq, forall_and]

/-! ## What counts last -/

/-- Whether an element has an attribute. -/
def Element.hasAttribute (name : String) (e : Element) : Bool :=
  e.attributes.any fun
    | .plain a => a.name = name
    | _ => false

theorem Element.hasAttribute_iff {name : String} {e : Element} :
    e.hasAttribute name = true ↔ e.staticValue name ≠ .absent := by
  rw [Ne, staticValue_eq_absent_iff, attribute?_eq_none_iff, hasAttribute, List.any_eq_true]
  push Not
  constructor
  · rintro ⟨_ | _ | _, hn, hname⟩
    · exact ⟨_, hn, of_decide_eq_true hname⟩
    · cases hname
    · cases hname
  · rintro ⟨a, ha, hname⟩
    exact ⟨.plain a, ha, decide_eq_true hname⟩

/-- What the last of some elements with an attribute says there, and something else if none of them has it. -/
def lastGiven (name : String) (es : List Element) (otherwise : StaticValue) : StaticValue :=
  (es.filter (·.hasAttribute name)).getLast?.elim otherwise (·.staticValue name)

theorem lastGiven_append (name : String) (es more : List Element) (otherwise : StaticValue) :
    lastGiven name (es ++ more) otherwise = lastGiven name more (lastGiven name es otherwise) := by
  unfold lastGiven
  rw [List.filter_append, List.getLast?_append]
  cases (more.filter (·.hasAttribute name)).getLast? <;> rfl

/-- What an element gives replaces what was there, if it gives something. -/
theorem lastGiven_singleton {α : Type} {of : Option α → StaticValue} (hof : ∀ o, of o = .absent ↔ o = none)
    {name : String} {e : Element} {given : Option α} (h : e.staticValue name = of given) (before : Option α) :
    lastGiven name [e] (of before) = of (given.or before) := by
  unfold lastGiven
  cases given with
  | none =>
    have hno : ¬e.hasAttribute name = true := by
      rw [Element.hasAttribute_iff, h, not_ne_iff]
      exact (hof none).mpr rfl
    rw [List.filter_cons_of_neg (by exact hno)]
    rfl
  | some a =>
    have hyes : e.hasAttribute name = true := by
      rw [Element.hasAttribute_iff, h, Ne, hof]
      exact Option.some_ne_none a
    rw [List.filter_cons_of_pos (by exact hyes)]
    exact h

namespace StaticValue

theorem ofText_eq_absent_iff (o : Option String) : ofText o = .absent ↔ o = none := by
  cases o <;> simp [ofText]

theorem ofTexts_eq_absent_iff (o : Option (List String)) : ofTexts o = .absent ↔ o = none := by
  cases o <;> simp [ofTexts]

theorem ofText_injective : Function.Injective ofText
  | none, none, _ => rfl
  | some _, some _, h => congrArg some (text.inj h)

theorem ofTexts_injective : Function.Injective ofTexts
  | none, none, _ => rfl
  | some _, some _, h =>
    congrArg some (List.map_injective_iff.mpr (fun _ _ hst => text.inj hst) (array.inj h))

end StaticValue

namespace Indexing

variable {plan : IndexPlan} {x y : Indexing} {e : Element}

/-- A marker changes neither title nor tags. -/
theorem info_of_readMarker (h : x.readMarker plan e = .ok y) : y.info = x.info := by
  obtain ⟨givenExportName, -, h⟩ := exists_of_bind h
  obtain ⟨givenName, -, h⟩ := exists_of_bind h
  obtain ⟨⟨exportName, name⟩, -, h⟩ := exists_of_bind h
  obtain ⟨claimed, -, h⟩ := exists_of_bind h
  obtain ⟨claimed', -, h⟩ := exists_of_bind h
  obtain ⟨tags, -, h⟩ := exists_of_bind h
  obtain ⟨rawSource, -, h⟩ := exists_of_bind h
  cases h
  rfl

/-- A meta element replaces what it gives of title and tags. -/
theorem info_of_readMeta (h : x.readMeta plan e = .ok y) :
    ∃ t ts, e.staticValue "title" = .ofText t ∧ e.staticValue "tags" = .ofTexts ts ∧
      y.info = ⟨t.or x.info.title, ts.or x.info.tags⟩ := by
  obtain ⟨t, ht, h⟩ := exists_of_bind h
  obtain ⟨ts, hts, h⟩ := exists_of_bind h
  cases h
  exact ⟨t, ts, StaticValue.asText_eq_ok_iff.mp ht, StaticValue.asTexts_eq_ok_iff.mp hts, rfl⟩

/-- **What a landmark makes of the title and the tags.** -/
theorem info_of_pass {l : Landmark} (h : x.pass plan l = .ok y) :
    StaticValue.ofText y.info.title = lastGiven "title" l.info?.toList (.ofText x.info.title) ∧
      StaticValue.ofTexts y.info.tags = lastGiven "tags" l.info?.toList (.ofTexts x.info.tags) := by
  cases l with
  | marker e =>
    rw [info_of_readMarker h]
    exact ⟨rfl, rfl⟩
  | info e =>
    obtain ⟨t, ts, ht, hts, hinfo⟩ := info_of_readMeta h
    rw [hinfo]
    exact ⟨(lastGiven_singleton StaticValue.ofText_eq_absent_iff ht _).symm,
      (lastGiven_singleton StaticValue.ofTexts_eq_absent_iff hts _).symm⟩

/-- **What landmarks make of the title and the tags**, one after the other. -/
theorem info_of_run {ls : List Landmark} (h : ls.foldlM (pass plan) x = .ok y) :
    StaticValue.ofText y.info.title = lastGiven "title" (infosOf ls) (.ofText x.info.title) ∧
      StaticValue.ofTexts y.info.tags = lastGiven "tags" (infosOf ls) (.ofTexts x.info.tags) := by
  induction ls generalizing x with
  | nil =>
    cases h
    exact ⟨rfl, rfl⟩
  | cons l ls ih =>
    rw [List.foldlM_cons] at h
    obtain ⟨z, hz, h⟩ := exists_of_bind h
    obtain ⟨htitle, htags⟩ := info_of_pass hz
    have hinfos : infosOf (l :: ls) = l.info?.toList ++ infosOf ls := by
      cases l <;> rfl
    rw [(ih h).1, (ih h).2, htitle, htags, hinfos, lastGiven_append, lastGiven_append]
    exact ⟨rfl, rfl⟩

end Indexing

/-! ## Documents -/

/-- What the meta object says of a property: the argument of `defineMeta` if there is one, else an exported
`meta`. -/
def ScriptFacts.metaValue (f : ScriptFacts) (name : String) : StaticValue :=
  match f.metaObject, f.legacyMetaObject with
  | some o, _ => o.staticValue name
  | .none, some o => o.staticValue name
  | .none, .none => .absent

theorem info_of_ofObject {file : String} {f : ScriptFacts} {info : IndexedMeta}
    (h : IndexedMeta.ofObject file f.meta? = .ok info) :
    StaticValue.ofText info.title = f.metaValue "title" ∧ StaticValue.ofTexts info.tags = f.metaValue "tags" := by
  have hvalue : ∀ name, f.metaValue name = f.meta?.elim .absent (·.staticValue name) := by
    intro name
    unfold ScriptFacts.metaValue ScriptFacts.meta?
    cases f.metaObject <;> cases f.legacyMetaObject <;> rfl
  rw [hvalue, hvalue]
  cases hm : f.meta? with
  | none =>
    rw [hm] at h
    cases h
    exact ⟨rfl, rfl⟩
  | some o =>
    rw [hm] at h
    obtain ⟨t, ht, h⟩ := exists_of_bind h
    obtain ⟨ts, hts, h⟩ := exists_of_bind h
    cases h
    exact ⟨(StaticValue.asText_eq_ok_iff.mp ht).symm, (StaticValue.asTexts_eq_ok_iff.mp hts).symm⟩

section

variable {d : Document} {options : IndexOptions} {facts : ScriptFacts} {tag : String} {info : IndexedMeta}
  {x : StoryIndex}

/-- The title and the tags of an index are those of the meta object and of the meta elements. -/
theorem info_of_index (h : d.IsPrepared options facts tag info) (hx : d.index options = .ok x) :
    StaticValue.ofText x.info.title =
        lastGiven "title" (infosOf (d.landmarks (d.indexPlan options facts tag))) (facts.metaValue "title") ∧
      StaticValue.ofTexts x.info.tags =
        lastGiven "tags" (infosOf (d.landmarks (d.indexPlan options facts tag))) (facts.metaValue "tags") := by
  rw [index_eq h, map_eq_ok_iff] at hx
  obtain ⟨y, hy, rfl⟩ := hx
  obtain ⟨htitle, htags⟩ := info_of_ofObject h.hasInfo
  rw [← htitle, ← htags]
  exact Indexing.info_of_run hy

/-- In the newer dialect no landmark is a meta element. -/
theorem infosOf_landmarks_none (markerTag : String) (f : Fragment) : infosOf (f.landmarks markerTag none) = [] := by
  unfold infosOf Fragment.landmarks
  rw [List.filterMap_filterMap, List.filterMap_eq_nil_iff]
  intro x _
  rcases x.value with _ | _ | _ | ⟨_ | _ | _, e⟩ | _ | _ | _ | _ | _ | _
  case element.component =>
    by_cases hm : e.name = markerTag
    · simp [MarkupNode.landmark?, hm, Landmark.info?]
    · simp [MarkupNode.landmark?, hm]
  all_goals rfl

/-- In the older dialect meta elements replace what the meta object says. -/
theorem info_of_index_legacy (h : d.IsPrepared options facts tag info) (hx : d.index options = .ok x)
    (legacy : options.legacyTemplate = true) :
    let metas := d.root.fragment.metaElements facts.markerTag facts.metaTag
    StaticValue.ofText x.info.title = lastGiven "title" metas (facts.metaValue "title") ∧
      StaticValue.ofTexts x.info.tags = lastGiven "tags" metas (facts.metaValue "tags") := by
  have hlandmarks : d.landmarks (d.indexPlan options facts tag) =
      d.root.fragment.landmarks facts.markerTag (some facts.metaTag) := by
    unfold Document.landmarks Document.indexPlan
    rw [if_pos legacy, indexTag_eq h.hasTag]
  have hx := info_of_index h hx
  rwa [hlandmarks, infosOf_landmarks] at hx

/-- In the newer dialect only the meta object counts. -/
theorem info_of_index_current (h : d.IsPrepared options facts tag info) (hx : d.index options = .ok x)
    (current : options.legacyTemplate = false) :
    StaticValue.ofText x.info.title = facts.metaValue "title" ∧
      StaticValue.ofTexts x.info.tags = facts.metaValue "tags" := by
  have hlandmarks : d.landmarks (d.indexPlan options facts tag) = d.root.fragment.landmarks tag none := by
    simp [Document.landmarks, Document.indexPlan, current]
  have hx := info_of_index h hx
  rwa [hlandmarks, infosOf_landmarks_none] at hx

end

/-- **The title and the tags of an index.** In the older dialect each is that of the last meta element which gives
it, else that of the meta object. In the newer one it is always that of the meta object, and so documents with the
same scripts have the same title and tags, whatever else is in them. -/
theorem meta_of_index {d : Document} {options : IndexOptions} {x : StoryIndex} (hx : d.index options = .ok x) :
    ∃ facts, ScriptFacts.resolve d.file options.packageName d.root = .ok facts ∧
      (options.legacyTemplate = true →
        let metas := d.root.fragment.metaElements facts.markerTag facts.metaTag
        StaticValue.ofText x.info.title = lastGiven "title" metas (facts.metaValue "title") ∧
          StaticValue.ofTexts x.info.tags = lastGiven "tags" metas (facts.metaValue "tags")) ∧
      (options.legacyTemplate = false →
        (StaticValue.ofText x.info.title = facts.metaValue "title" ∧
          StaticValue.ofTexts x.info.tags = facts.metaValue "tags") ∧
        ∀ (d' : Document) (x' : StoryIndex), d'.root.moduleScript = d.root.moduleScript →
          d'.root.instanceScript = d.root.instanceScript → d'.index options = .ok x' → x'.info = x.info) := by
  obtain ⟨facts, tag, info, h⟩ := exists_isPrepared_of_index hx
  refine ⟨facts, h.resolves, info_of_index_legacy h hx, fun current => ?_⟩
  have hvalues := info_of_index_current h hx current
  refine ⟨hvalues, fun d' x' hmodule hinstance hx' => ?_⟩
  obtain ⟨facts', tag', info', h'⟩ := exists_isPrepared_of_index hx'
  obtain rfl : facts' = facts := by
    have hresolves := h'.resolves
    have hother := ScriptFacts.resolve_of_file d'.file h.resolves
    rw [ScriptFacts.resolve_eq_of_scripts _ _ hmodule hinstance, hother] at hresolves
    exact (Except.ok.inj hresolves).symm
  have hvalues' := info_of_index_current h' hx' current
  have htitle := StaticValue.ofText_injective (hvalues'.1.trans hvalues.1.symm)
  have htags := StaticValue.ofTexts_injective (hvalues'.2.trans hvalues.2.symm)
  calc x'.info = ⟨x'.info.title, x'.info.tags⟩ := rfl
    _ = ⟨x.info.title, x.info.tags⟩ := by rw [htitle, htags]

/-- A document of the older dialect with `export const meta = { title: "Own", tags: ["own"] }` and two meta elements
that give titles, one of them without any. -/
def twoMetas : Document where
  file := "metas.stories"
  source := ""
  root :=
    { scripted [.namedExport ⟨0, 0⟩ (some (.declaration ⟨⟨0, 0⟩, "const", [⟨⟨0, 0⟩, .identifier ⟨⟨0, 0⟩, "meta"⟩,
        some (.object ⟨⟨0, 0⟩, [
          .property ⟨0, 0⟩ (.identifier ⟨⟨0, 0⟩, "title"⟩) (.literal ⟨⟨0, 0⟩, .text "Own"⟩) false false,
          .property ⟨0, 0⟩ (.identifier ⟨⟨0, 0⟩, "tags"⟩)
            (.array ⟨0, 0⟩ [some (.literal ⟨⟨0, 0⟩, .text "own"⟩)]) false false]⟩)⟩]⟩))] with
      fragment := ⟨[titled "First", namedMarker 0 0 "A" [titled "Inside"], titled "Last"]⟩ }
  encoding := .utf16
where
  titled (title : String) : MarkupNode :=
    .element .component
      ⟨⟨0, 0⟩, "Meta", [.plain ⟨⟨0, 0⟩, "title", .sequence [.text ⟨⟨0, 0⟩, title⟩]⟩], ⟨[]⟩⟩

/-- The last title outside the story counts in the older dialect, and the tags are those of the exported object. -/
theorem meta_of_twoMetas : ∃ x, twoMetas.index ⟨"p", true, false⟩ = .ok x ∧
    x.info = ⟨some "Last", some ["own"]⟩ ∧
    ∃ facts, ScriptFacts.resolve twoMetas.file "p" twoMetas.root = .ok facts ∧
      let metas := twoMetas.root.fragment.metaElements facts.markerTag facts.metaTag
      StaticValue.ofText x.info.title = lastGiven "title" metas (facts.metaValue "title") ∧
        StaticValue.ofTexts x.info.tags = lastGiven "tags" metas (facts.metaValue "tags") := by
  obtain ⟨x, hx, hinfo⟩ : ∃ x, twoMetas.index ⟨"p", true, false⟩ = .ok x ∧ x.info = ⟨some "Last", some ["own"]⟩ :=
    ⟨_, rfl, rfl⟩
  obtain ⟨facts, hfacts, hlegacy, -⟩ := meta_of_index hx
  exact ⟨x, hx, hinfo, facts, hfacts, hlegacy rfl⟩

end StoryCatalog
