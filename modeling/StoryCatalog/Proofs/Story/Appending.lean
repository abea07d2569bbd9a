import StoryCatalog.Proofs.Story.Bodies
import StoryCatalog.Proofs.Story.Indexes
import StoryCatalog.Proofs.Story.Scripts

/-!
# Appending to a document

A document that goes on where another ends has the scripts, the slices and the snippets of the other, and
sees its markers first. So the stories of the shorter document are the first ones of the longer, unless this
one has no catalog or index at all.

* `Continues.extendedBy`: sources are recovered from the longer document as from the shorter.
* `prefix_of_shows`, `Element.ListsAs.eq`: what the markers of the shorter document lead to in the longer.
* `appending_keeps_stories`: the stories and warnings of the shorter document come first in the longer.
-/

namespace StoryCatalog

open Rose

/-- A document goes on where another ends: more text comes after its text and more nodes after its nodes. -/
structure Document.Continues (d' d : Document) : Prop where
  file : d'.file = d.file
  encoding : d'.encoding = d.encoding
  moduleScript : d'.root.moduleScript = d.root.moduleScript
  instanceScript : d'.root.instanceScript = d.root.instanceScript
  source : d.source.toList <+: d'.source.toList
  nodes : d.root.fragment.nodes <+: d'.root.fragment.nodes

/-! ## Markup -/

section

variable {d d' : Document}

namespace Document.Continues

theorem exists_trees (h : d'.Continues d) :
    ∃ more, d'.root.fragment.trees = d.root.fragment.trees ++ more := by
  obtain ⟨more, hm⟩ := h.nodes
  refine ⟨markupTrees more, ?_⟩
  rw [Fragment.trees_eq, Fragment.trees_eq, ← hm, markupTrees_append]

theorem isSlice (h : d'.Continues d) {span : Span} {t : String} (hs : d.IsSlice span t) :
    d'.IsSlice span t := by
  obtain ⟨before, after, hd, hb, hp⟩ := hs
  obtain ⟨more, hm⟩ := h.source
  rw [hd, List.append_assoc] at hm
  refine ⟨before, after ++ more, hm.symm, ?_, ?_⟩ <;> rwa [h.encoding]

/-- The first snippet with a name stays the first. -/
theorem isFirstSnippet (h : d'.Continues d) {name : String} {s : Snippet}
    (hs : IsFirstSnippet (preorderAll d.root.fragment.trees) name s) :
    IsFirstSnippet (preorderAll d'.root.fragment.trees) name s := by
  obtain ⟨before, after, hd, hn, hb⟩ := hs
  obtain ⟨more, hm⟩ := h.exists_trees
  refine ⟨before, after ++ preorderAll more, ?_, hn, hb⟩
  rw [hm, preorderAll_append, hd, List.append_assoc]
  rfl

/-- Sources are recovered from the longer document as from the shorter. -/
theorem extendedBy (h : d'.Continues d) (template component : Option String) (n : Normalization) :
    RawSource.ExtendedBy ⟨d, template, component, n⟩ ⟨d', template, component, n⟩ where
  templateSnippet := rfl
  component := rfl
  slices := fun _ _ => h.isSlice
  snippets := fun _ _ => h.isFirstSnippet

/-- The markers of the shorter document are seen first, and the same comments before them. -/
theorem sightings_prefix (h : d'.Continues d) (tag : String) :
    d.root.fragment.sightings tag <+: d'.root.fragment.sightings tag := by
  obtain ⟨more, hm⟩ := h.exists_trees
  unfold Fragment.sightings
  rw [outside_eq_reachAll, outside_eq_reachAll, hm, reachAll_append]
  exact StoryCatalog.sightings_prefix tag none _ _

theorem landmarks_prefix (h : d'.Continues d) (plan : IndexPlan) :
    d.landmarks plan <+: d'.landmarks plan := by
  obtain ⟨more, hm⟩ := h.exists_trees
  unfold Document.landmarks
  rw [landmarks_eq, landmarks_eq, hm, reachAll_append, List.filterMap_append]
  exact List.prefix_append _ _

end Document.Continues

end

/-! ## Stories -/

section

variable {r r' : RawSource}

/-- A marker and its comment lead to one story, its id aside. -/
theorem StoryMeta.IsOf.eq_of_id (hr : r.ExtendedBy r') (hn : r'.normalization = r.normalization)
    {s : Element × Option Comment} {m m' : StoryMeta} (h : m.IsOf r s) (h' : m'.IsOf r' s)
    (hid : m.id = m'.id) : m = m' := by
  have hname : m.name = m'.name := StaticValue.text.inj (h.name.symm.trans h'.name)
  have hsource : m.source = m'.source := by
    have hs := StaticValue.asSource_eq_ok_iff (c := .missingModuleTag r.document.file).mpr h.source
    rw [StaticValue.asSource_eq_ok_iff.mpr h'.source] at hs
    exact (Except.ok.inj hs).symm
  have hraw : m.rawSource = m'.rawSource := by
    have hm := RawSource.recover_of_extendedBy hr hn h.rawSource m'.name
    rw [h'.rawSource] at hm
    exact (Except.ok.inj hm).symm
  have hdescription : m.description = m'.description := h.description.trans h'.description.symm
  obtain ⟨id, name, description, source, raw⟩ := m
  cases hid
  cases hname
  cases hdescription
  cases hsource
  cases hraw
  rfl

/-- The ids of more markers begin with the ids of the first ones. -/
theorem map_id_prefix (g : Registry) {es es' : List Element} (h : es <+: es') :
    (g.resolveAll (callsOf es)).map (·.1) <+: (g.resolveAll (callsOf es')).map (·.1) := by
  obtain ⟨more, rfl⟩ := h
  rw [callsOf, callsOf, List.filterMap_append, Registry.resolveAll_append, List.map_append]
  exact List.prefix_append _ _

/-- **What a catalog shows of the first markers**, and what it warns of, comes first. -/
theorem prefix_of_shows (hr : r.ExtendedBy r') (hn : r'.normalization = r.normalization)
    (hf : r'.document.file = r.document.file) {g : Registry}
    {ss ss' : List (Element × Option Comment)} {c c' : Catalog} (h : c.Shows r g ss)
    (h' : c'.Shows r' g ss') (hs : ss <+: ss') :
    c.stories <+: c'.stories ∧ c.warnings <+: c'.warnings := by
  have hes : ss.map (·.1) <+: ss'.map (·.1) := hs.map _
  -- A marker determines its story only together with the id, so the two go in pairs.
  have hids : ss.zip (c.stories.map (·.id)) <+: ss'.zip (c'.stories.map (·.id)) := by
    refine zip_prefix_zip hs ?_ ?_
    · rw [h.ids, h'.ids]
      exact map_id_prefix g hes
    · rw [List.length_map, h.stories.length_eq]
  have hstories : c.stories <+: c'.stories := by
    refine prefix_of_forall₂ (forall₂_zip_map h.stories (·.id)) (forall₂_zip_map h'.stories (·.id)) hids ?_
    rintro ⟨s, id⟩ m m' ⟨hm, hid⟩ ⟨hm', hid'⟩
    exact hm.eq_of_id hr hn hm' (hid.symm.trans hid')
  refine ⟨hstories, ?_⟩
  rw [h.warnings, h'.warnings, hf]
  refine (zip_prefix_zip hes hstories ?_).filterMap _
  rw [List.length_map, h.stories.length_eq]

/-- A marker is listed in one way. -/
theorem Element.ListsAs.eq {plan plan' : IndexPlan} {e : Element} {s s' : IndexedStory}
    (h : e.ListsAs plan s) (h' : e.ListsAs plan' s')
    (hr : ∀ o, Indexing.sourceOf plan e s.name = .ok o → Indexing.sourceOf plan' e s.name = .ok o) :
    s = s' := by
  obtain ⟨hx, hn⟩ := h.identity.unique h'.identity
  have hts : s.tags = s'.tags := by
    rcases h.tags with ht | ⟨ht, hnil⟩ <;> rcases h'.tags with ht' | ⟨ht', hnil'⟩
    · have hmap := StaticValue.array.inj (ht.symm.trans ht')
      exact List.map_injective_iff.mpr (fun _ _ => StaticValue.text.inj) hmap
    · cases ht.symm.trans ht'
    · cases ht.symm.trans ht'
    · rw [hnil, hnil']
  have hraw : s.rawSource = s'.rawSource := by
    have hs := hr _ h.rawSource
    rw [hn, h'.rawSource] at hs
    exact (Except.ok.inj hs).symm
  obtain ⟨x, n, ts, raw⟩ := s
  cases hx
  cases hn
  cases hts
  cases hraw
  rfl

end

/-! ## The longer document -/

section

variable {d d' : Document}

/-- The sources that an index of the longer document recovers. -/
theorem sourceOf_of_continues (h : d'.Continues d) {options : IndexOptions} {facts : ScriptFacts}
    {tag : String} {e : Element} {name : String} {o : Option String}
    (ho : Indexing.sourceOf (d.indexPlan options facts tag) e name = .ok o) :
    Indexing.sourceOf (d'.indexPlan options facts tag) e name = .ok o := by
  unfold Document.indexPlan at ho ⊢
  by_cases hi : options.includeRawSource = true
  · rw [if_pos hi] at ho ⊢
    exact RawSource.recover_of_extendedBy (h.extendedBy _ _ _) rfl ho name
  · rw [if_neg hi] at ho ⊢
    exact ho

/-- **Appending to a document keeps its stories.** The stories of a document and the warnings come first in
the catalog of a document that goes on where it ends, and the stories that its index lists come first in the
index. -/
theorem appending_keeps_stories (h : d'.Continues d) :
    (∀ config c c', d.extract config = .ok c → d'.extract config = .ok c' →
      c.stories <+: c'.stories ∧ c.warnings <+: c'.warnings) ∧
    ∀ options x x', d.index options = .ok x → d'.index options = .ok x' → x.stories <+: x'.stories := by
  have hresolve : ∀ package, ScriptFacts.resolve d'.file package d'.root =
      ScriptFacts.resolve d.file package d.root := by
    intro package
    rw [h.file]
    exact ScriptFacts.resolve_eq_of_scripts d.file package h.moduleScript h.instanceScript
  constructor
  · intro config c c' hc hc'
    obtain ⟨facts, hf⟩ := exists_facts_of_extract hc
    have hshows' := shows_of_extract ((hresolve _).trans hf) hc'
    rw [h.file] at hshows'
    exact prefix_of_shows (h.extendedBy _ _ _) rfl h.file (shows_of_extract hf hc) hshows'
      (h.sightings_prefix _)
  · intro options x x' hx hx'
    obtain ⟨facts, tag, info, hp⟩ := exists_isPrepared_of_index hx
    have hp' : d'.IsPrepared options facts tag info :=
      { moduleScript := h.moduleScript ▸ hp.moduleScript
        resolves := (hresolve _).trans hp.resolves
        hasTag := by
          rw [Document.indexTag, h.file]
          exact hp.hasTag
        hasInfo := by
          rw [h.file]
          exact hp.hasInfo }
    refine prefix_of_forall₂ (lists_of_index hp hx).stories (lists_of_index hp' hx').stories
      ((h.landmarks_prefix _).filterMap _) fun e s s' hs hs' => ?_
    exact hs.eq hs' fun _ => sourceOf_of_continues h

end

/-- A document with one marker. -/
def oneStory : Document where
  file := "one.stories"
  source := "<Story name='A' />"
  root := ⟨⟨0, 18⟩, ⟨[namedMarker 0 18 "A" []]⟩, none, none⟩
  encoding := .utf16

/-- The same document with a letter beyond ASCII after it, and then another marker. -/
def anotherStory : Document where
  file := "one.stories"
  source := "<Story name='A' />é<Story name='B' />"
  root := ⟨⟨0, 37⟩,
    ⟨[namedMarker 0 18 "A" [], .text ⟨⟨18, 19⟩, "é"⟩, namedMarker 19 37 "B" []]⟩, none, none⟩
  encoding := .utf16

/-- The first story stays what it is where offsets into the text have to be counted. -/
theorem appending_keeps_oneStory :
    anotherStory.Continues oneStory ∧
      ∃ c c' x x', oneStory.extract Config.default = .ok c ∧
        anotherStory.extract Config.default = .ok c' ∧
        oneStory.index ⟨"p", true, true⟩ = .ok x ∧ anotherStory.index ⟨"p", true, true⟩ = .ok x' ∧
        c.stories <+: c'.stories ∧ c.warnings <+: c'.warnings ∧ x.stories <+: x'.stories := by
  have h : anotherStory.Continues oneStory :=
    ⟨rfl, rfl, rfl, rfl, ⟨"é<Story name='B' />".toList, rfl⟩, ⟨_, rfl⟩⟩
  obtain ⟨c, hc⟩ : ∃ c, oneStory.extract Config.default = .ok c := ⟨_, rfl⟩
  obtain ⟨c', hc'⟩ : ∃ c', anotherStory.extract Config.default = .ok c' := ⟨_, rfl⟩
  obtain ⟨x, hx⟩ : ∃ x, oneStory.index ⟨"p", true, true⟩ = .ok x := ⟨_, rfl⟩
  obtain ⟨x', hx'⟩ : ∃ x', anotherStory.index ⟨"p", true, true⟩ = .ok x' := ⟨_, rfl⟩
  obtain ⟨hs, hw⟩ := (appending_keeps_stories h).1 _ c c' hc hc'
  exact ⟨h, c, c', x, x', hc, hc', hx, hx', hs, hw, (appending_keeps_stories h).2 _ x x' hx hx'⟩

end StoryCatalog
