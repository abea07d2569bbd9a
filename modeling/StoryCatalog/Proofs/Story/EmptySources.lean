import StoryCatalog.Proofs.Story.Bodies
import StoryCatalog.Proofs.Story.Indexes

/-!
# Empty sources

Whether a body is empty is asked of its nodes, before its text is brought into shape. A story has no source
exactly if its body has no nodes, and it has an empty one exactly if there are nodes and nothing but blanks
stands in them.

* `rawSource_empty_iff`: the sources in catalogs and indexes that are missing, and those that are empty.
* `rawSource_blankBody`: a catalog can have an empty source.
-/

namespace StoryCatalog

/-- A source is missing exactly if the body of the story has no nodes, and empty exactly if it has nodes and
they hold nothing but blanks. -/
structure RawSource.Reflects (r : RawSource) (e : Element) (o : Option String) : Prop where
  missing_iff : o = none ↔ r.ShowsNothing e
  empty_iff : o = some "" ↔ r.ShowsBlanks e

theorem RawSource.reflects_of_recover {r : RawSource} {e : Element} {story : String} {o : Option String}
    (h : r.recover e story = .ok o) : r.Reflects e o :=
  ⟨(recover_empty_iff h).1, (recover_empty_iff h).2⟩

section

variable {d : Document}

/-- The sources in a catalog. -/
theorem reflects_of_extract {config : Config} {facts : ScriptFacts} {c : Catalog}
    (h : ScriptFacts.resolve d.file config.packageName d.root = .ok facts) (hc : d.extract config = .ok c) :
    List.Forall₂ (fun e (m : StoryMeta) => (d.extractionPlan facts).rawSource.Reflects e m.rawSource)
      (d.root.fragment.markers facts.markerTag) c.stories := by
  rw [← map_fst_fragment_sightings, List.forall₂_map_left_iff]
  exact (shows_of_extract h hc).stories.imp fun _ _ hm => RawSource.reflects_of_recover hm.rawSource

/-- The sources in an index that has been asked for them. -/
theorem reflects_of_index {options : IndexOptions} {facts : ScriptFacts} {tag : String}
    {info : IndexedMeta} {x : StoryIndex} (h : d.IsPrepared options facts tag info)
    (hr : options.includeRawSource = true) (hx : d.index options = .ok x) :
    List.Forall₂ (fun e (s : IndexedStory) =>
        RawSource.Reflects ⟨d, facts.templateSnippet, facts.component?, .singleLine⟩ e s.rawSource)
      (markersOf (d.landmarks (d.indexPlan options facts tag))) x.stories :=
  (lists_of_index h hx).stories.imp fun _ _ hs => RawSource.reflects_of_recover (recover_of_listsAs hs hr)

end

/-- **Which sources are missing and which are empty**, in the catalog of a document and in an index that has
been asked for sources. -/
theorem rawSource_empty_iff (d : Document) :
    (∀ config c, d.extract config = .ok c → ∃ facts,
      ScriptFacts.resolve d.file config.packageName d.root = .ok facts ∧
        List.Forall₂ (fun e (m : StoryMeta) => (d.extractionPlan facts).rawSource.Reflects e m.rawSource)
          (d.root.fragment.markers facts.markerTag) c.stories) ∧
    ∀ options x, options.includeRawSource = true → d.index options = .ok x → ∃ facts tag info,
      d.IsPrepared options facts tag info ∧
        List.Forall₂ (fun e (s : IndexedStory) =>
            RawSource.Reflects ⟨d, facts.templateSnippet, facts.component?, .singleLine⟩ e s.rawSource)
          (markersOf (d.landmarks (d.indexPlan options facts tag))) x.stories := by
  constructor
  · intro config c hc
    obtain ⟨facts, hf⟩ := exists_facts_of_extract hc
    exact ⟨facts, hf, reflects_of_extract hf hc⟩
  · intro options x hr hx
    obtain ⟨facts, tag, info, h⟩ := exists_isPrepared_of_index hx
    exact ⟨facts, tag, info, h, reflects_of_index h hr hx⟩

/-- A document with a marker around a single blank. -/
def blankBody : Document where
  file := "blank.stories"
  source := "<Story name='A'> </Story>"
  root := ⟨⟨0, 25⟩, ⟨[namedMarker 0 25 "A" [.text ⟨⟨16, 17⟩, " "⟩]]⟩, none, none⟩
  encoding := .utf16

/-- The marker around a blank has a body with nodes. -/
theorem reflects_blankBody :
    (∃ c facts, blankBody.extract Config.default = .ok c ∧
      ScriptFacts.resolve blankBody.file Config.default.packageName blankBody.root = .ok facts ∧
      List.Forall₂ (fun e (m : StoryMeta) =>
          (blankBody.extractionPlan facts).rawSource.Reflects e m.rawSource)
        (blankBody.root.fragment.markers facts.markerTag) c.stories) ∧
    ∃ x facts tag info, blankBody.index ⟨"p", true, true⟩ = .ok x ∧
      blankBody.IsPrepared ⟨"p", true, true⟩ facts tag info ∧
      List.Forall₂ (fun e (s : IndexedStory) =>
          RawSource.Reflects ⟨blankBody, facts.templateSnippet, facts.component?, .singleLine⟩ e
            s.rawSource)
        (markersOf (blankBody.landmarks (blankBody.indexPlan ⟨"p", true, true⟩ facts tag))) x.stories := by
  obtain ⟨c, hc⟩ : ∃ c, blankBody.extract Config.default = .ok c := ⟨_, rfl⟩
  obtain ⟨x, hx⟩ : ∃ x, blankBody.index ⟨"p", true, true⟩ = .ok x := ⟨_, rfl⟩
  obtain ⟨facts, hf, hs⟩ := (rawSource_empty_iff blankBody).1 Config.default c hc
  obtain ⟨facts', tag, info, h, hs'⟩ := (rawSource_empty_iff blankBody).2 ⟨"p", true, true⟩ x rfl hx
  exact ⟨⟨c, facts, hc, hf, hs⟩, x, facts', tag, info, hx, h, hs'⟩

/-- A catalog can have an empty source. -/
theorem rawSource_blankBody :
    ¬∀ (d : Document) (config : Config) (c : Catalog), d.extract config = .ok c →
      ∀ m ∈ c.stories, m.rawSource ≠ some "" := by
  intro h
  have hc : blankBody.extract Config.default =
      .ok ⟨[("A", ⟨"A", "A", none, none, some ""⟩)], ["A"], []⟩ := rfl
  exact h blankBody Config.default _ hc ⟨"A", "A", none, none, some ""⟩ (List.mem_singleton.mpr rfl) rfl

end StoryCatalog
