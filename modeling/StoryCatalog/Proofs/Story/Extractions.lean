import StoryCatalog.Proofs.Story.Catalogs
import StoryCatalog.Proofs.Story.Identities
import StoryCatalog.Proofs.Story.Readings

/-!
# What an extraction finds

An extraction succeeds exactly if every marker passes its checks, and its catalog then holds one story
for each marker, in order. Otherwise the first marker that does not pass gives the cause.

* `readMarker_eq`: a marker that passes its checks advances the extraction by what it says.
* `foldlM_act`: what a run over the markup makes of a catalog, from what its markers say and from the
  comments before them.
* `extract_outcome`: which documents have a catalog, and what it holds.
-/

namespace StoryCatalog

/-- The description that a marker takes from the latest comment before it. -/
def describe (s : Element × Option Comment) : Option String :=
  ((CommentCursor.mk s.2).take s.1.span.start).1

namespace Reading

/-- The call for the id of the story. -/
def call (y : Reading) : Registry.Call :=
  (y.name, y.explicitId)

/-- The story that a marker speaks of, given its id and its description. -/
def story (y : Reading) (id : String) (description : Option String) : StoryMeta :=
  ⟨id, y.name, description, y.source, y.rawSource⟩

end Reading

/-- The stories that markers speak of, given the latest comments before them, each with its
warning. -/
def tell (g : Registry) (ys : List Reading) (ss : List (Element × Option Comment)) :
    List (StoryMeta × Option Warning) :=
  List.zipWith (fun p a => (p.1.story a.1 (describe p.2), a.2)) (ys.zip ss)
    (g.resolveAll (ys.map (·.call)))

theorem tell_cons (g : Registry) (y : Reading) (ys : List Reading) (s : Element × Option Comment)
    (ss : List (Element × Option Comment)) :
    tell g (y :: ys) (s :: ss) =
      (y.story (g.resolveId y.name y.explicitId).2.1 (describe s),
        (g.resolveId y.name y.explicitId).2.2) ::
          tell (g.resolveId y.name y.explicitId).1 ys ss := rfl

theorem tell_names (g : Registry) (names : List String) (ys : List Reading)
    (ss : List (Element × Option Comment)) : tell { g with names } ys ss = tell g ys ss := by
  unfold tell
  rw [Registry.resolveAll_names]

namespace Extraction

/-- The extraction after a marker that begins at `start` and passes its checks. -/
def advance (x : Extraction) (start : Nat) (y : Reading) : Extraction :=
  let a := { x.registry with names := y.name :: x.registry.names }.resolveId y.name y.explicitId
  ⟨(x.comments.take start).2, a.1,
    record x.catalog (y.story a.2.1 (x.comments.take start).1) a.2.2⟩

/-- The registry that goes on is the one after the call, and knows of the claimed name too. -/
theorem registry_advance (x : Extraction) (start : Nat) (y : Reading) :
    (x.advance start y).registry =
      { (x.registry.resolveId y.name y.explicitId).1 with names := y.name :: x.registry.names } :=
  (x.registry.resolveId_names (y.name :: x.registry.names) y.name y.explicitId).2

theorem catalog_advance (x : Extraction) (start : Nat) (y : Reading) :
    (x.advance start y).catalog =
      record x.catalog
        (y.story (x.registry.resolveId y.name y.explicitId).2.1 (x.comments.take start).1)
        (x.registry.resolveId y.name y.explicitId).2.2 := by
  rw [← (x.registry.resolveId_names (y.name :: x.registry.names) y.name y.explicitId).1]
  rfl

theorem file_advance (x : Extraction) (start : Nat) (y : Reading) :
    (x.advance start y).registry.file = x.registry.file := by
  rw [registry_advance]
  exact x.registry.resolveId_file y.name y.explicitId

/-- A marker that passes its checks advances the extraction by what it says. The registry refuses a name for the
file of the document. -/
theorem readMarker_eq {plan : ExtractionPlan} {x : Extraction}
    (hfile : x.registry.file = plan.rawSource.document.file) (e : Element) :
    x.readMarker plan e =
      (e.reading plan.rawSource x.registry.names).map (x.advance e.span.start) := by
  unfold readMarker Element.reading
  dsimp only
  cases storyName plan.rawSource.document.file e with
  | error c => rfl
  | ok name =>
    by_cases hn : name ∈ x.registry.names
    · simp [Registry.claimName_of_mem hn, hn, hfile, bind, Except.bind, Except.map, throw, throwThe,
        MonadExceptOf.throw]
    · simp only [Registry.claimName_of_not_mem hn, hn, bind, Except.bind, if_false]
      cases e.text? plan.rawSource.document.file "id" with
      | error c => rfl
      | ok id =>
        cases e.source? plan.rawSource.document.file with
        | error c => rfl
        | ok source => cases plan.rawSource.recover e name <;> rfl

theorem act_of_marker {plan : ExtractionPlan} {n : MarkupNode} {e : Element}
    (h : n.marker? plan.markerTag = some e) (x : Extraction) :
    act plan x n = x.readMarker plan e := by
  unfold act
  rw [h]

theorem act_of_no_marker {plan : ExtractionPlan} {n : MarkupNode}
    (h : n.marker? plan.markerTag = none) (x : Extraction) :
    act plan x n =
      .ok { x with comments := ⟨n.latestComment plan.markerTag x.comments.latest⟩ } := by
  have hm : n.isMarker plan.markerTag = false := by rw [MarkupNode.isMarker, h]; rfl
  unfold act
  rw [h]
  cases n with
  | comment c => rfl
  | _ => simp [MarkupNode.latestComment, hm]

/-- The catalog after stories and their warnings, one after the other. -/
def recordAll (catalog : Catalog) (ss : List (StoryMeta × Option Warning)) : Catalog :=
  ss.foldl (fun c s => record c s.1 s.2) catalog

/-- **The catalog that a run over the markup leads to.** It depends on what the markers say, given the
names taken before, and on the comments before them. -/
theorem foldlM_act {plan : ExtractionPlan} {x : Extraction}
    (hfile : x.registry.file = plan.rawSource.document.file) (taken : List String)
    (ht : ∀ n, n ∈ x.registry.names ↔ n ∈ taken) (ns : List MarkupNode) :
    (ns.foldlM (act plan) x).map (·.catalog) =
      (readings plan.rawSource taken (ns.filterMap (·.marker? plan.markerTag))).map fun ys =>
        recordAll x.catalog
          (tell x.registry ys (sightings plan.markerTag x.comments.latest ns)) := by
  induction ns generalizing x taken with
  | nil => rfl
  | cons n ns ih =>
    rw [List.foldlM_cons, sightings]
    cases hm : n.marker? plan.markerTag with
    | some e =>
      rw [List.filterMap_cons_some hm, act_of_marker hm, readMarker_eq hfile, Element.reading_congr ht]
      rcases Element.readsAs_or_failsWith plan.rawSource taken e with ⟨y, hy⟩ | ⟨c, hc⟩
      · rw [readings_cons_of_readsAs hy, Element.reading_of_readsAs hy]
        have ht' : ∀ m, m ∈ (x.advance e.span.start y).registry.names ↔
            m ∈ taken ++ [y.name] := by
          intro m
          rw [registry_advance, List.mem_append, List.mem_singleton, ← ht, or_comm]
          exact List.mem_cons
        refine (ih ((file_advance x _ y).trans hfile) _ ht').trans ?_
        rw [registry_advance, catalog_advance]
        simp only [tell_names]
        cases readings plan.rawSource (taken ++ [y.name]) (ns.filterMap (·.marker? plan.markerTag)) <;>
          rfl
      · rw [readings_cons_of_failsWith hc, Element.reading_of_failsWith hc]
        rfl
    | none =>
      rw [List.filterMap_cons_none hm, act_of_no_marker hm]
      exact ih (x := { x with comments := ⟨n.latestComment plan.markerTag x.comments.latest⟩ }) hfile taken ht

end Extraction

/-! ## The stories of the markers -/

/-- What a marker and the latest comment before it say of a story, its id aside. -/
structure StoryMeta.IsOf (r : RawSource) (s : Element × Option Comment) (m : StoryMeta) : Prop where
  name : s.1.staticValue "name" = .text m.name
  description : m.description = describe s
  source : s.1.staticValue "source" = .ofSource m.source
  rawSource : r.recover s.1 m.name = .ok m.rawSource

/-- The call for the id that a marker makes, if its name is a static text. -/
def Element.call? (e : Element) : Option Registry.Call :=
  (e.staticText? "name").map fun name => (name, e.staticText? "id")

/-- The calls for ids that markers make. -/
def callsOf (es : List Element) : List Registry.Call :=
  es.filterMap (·.call?)

section Tell

variable {r : RawSource} {ss : List (Element × Option Comment)} {ys : List Reading}

theorem Element.ReadsAs.staticText?_id {taken : List String} {e : Element} {y : Reading}
    (h : e.ReadsAs r taken y) : e.staticText? "id" = y.explicitId := by
  rw [Element.staticText?, h.explicitId]
  cases y.explicitId <;> rfl

theorem Element.ReadsAs.call? {taken : List String} {e : Element} {y : Reading}
    (h : e.ReadsAs r taken y) : e.call? = some y.call := by
  rw [Element.call?, h.staticText?, h.staticText?_id]
  rfl

theorem callsOf_eq {es : List Element} (h : List.Forall₂ (Element.ReadsAs r []) es ys) :
    callsOf es = ys.map (·.call) := by
  induction h with
  | nil => rfl
  | cons hy _ ih => rw [callsOf, List.filterMap_cons_some hy.call?, List.map_cons, ← ih, callsOf]

theorem forall₂_tell (h : List.Forall₂ (Element.ReadsAs r []) (ss.map (·.1)) ys)
    (g : Registry) : List.Forall₂ (StoryMeta.IsOf r) ss ((tell g ys ss).map (·.1)) := by
  induction ss generalizing ys g with
  | nil =>
    cases h
    exact .nil
  | cons s ss ih =>
    obtain _ | ⟨hy, hys⟩ := h
    rw [tell_cons, List.map_cons]
    exact .cons ⟨hy.name, rfl, hy.source, hy.rawSource⟩ (ih hys _)

theorem map_name_tell (h : List.Forall₂ (Element.ReadsAs r []) (ss.map (·.1)) ys)
    (g : Registry) : (tell g ys ss).map (·.1.name) = ys.map (·.name) := by
  induction ss generalizing ys g with
  | nil =>
    cases h
    rfl
  | cons s ss ih =>
    obtain _ | ⟨hy, hys⟩ := h
    rw [tell_cons, List.map_cons, List.map_cons, ih hys]
    rfl

theorem map_id_tell (h : List.Forall₂ (Element.ReadsAs r []) (ss.map (·.1)) ys)
    (g : Registry) :
    (tell g ys ss).map (·.1.id) = (g.resolveAll (callsOf (ss.map (·.1)))).map (·.1) := by
  rw [callsOf_eq h]
  induction ss generalizing ys g with
  | nil =>
    cases h
    rfl
  | cons s ss ih =>
    obtain _ | ⟨hy, hys⟩ := h
    rw [tell_cons, List.map_cons, ih hys, List.map_cons, Registry.resolveAll, List.map_cons]
    rfl

/-- Each story comes with a warning exactly if its id was generated and is not the derived one. -/
theorem filterMap_warning_tell
    (h : List.Forall₂ (Element.ReadsAs r []) (ss.map (·.1)) ys) (g : Registry) :
    (tell g ys ss).filterMap (·.2) =
      ((ss.map (·.1)).zip ((tell g ys ss).map (·.1))).filterMap fun p =>
        Registry.warningOf g.file p.2.name (p.1.staticText? "id") p.2.id := by
  induction ss generalizing ys g with
  | nil =>
    cases h
    rfl
  | cons s ss ih =>
    obtain _ | ⟨hy, hys⟩ := h
    rw [tell_cons, List.filterMap_cons, ih hys, Registry.resolveId_file, List.map_cons, List.map_cons,
      List.zip_cons_cons, List.filterMap_cons, hy.staticText?_id, Registry.resolveId_warning]
    rfl

end Tell

/-! ## The catalog -/

namespace Extraction

variable {c : Catalog}

theorem names_record (m : StoryMeta) (warning : Option Warning) (h : c.WellFormed)
    (hm : m.name ∉ c.names) : (record c m warning).names = c.names ++ [m.name] := by
  cases warning with
  | none => exact (Catalog.names_insert h m).trans (if_neg hm)
  | some w => exact (Catalog.names_insert (h.warn w) m).trans (if_neg hm)

theorem stories_record (m : StoryMeta) (warning : Option Warning) (h : c.WellFormed)
    (hm : m.name ∉ c.names) : (record c m warning).stories = c.stories ++ [m] := by
  cases warning with
  | none => exact Catalog.stories_insert h hm
  | some w => exact Catalog.stories_insert (h.warn w) hm

theorem warnings_record (m : StoryMeta) (warning : Option Warning) :
    (record c m warning).warnings = c.warnings ++ warning.toList := by
  cases warning with
  | none => exact (List.append_nil _).symm
  | some w => rfl

theorem wellFormed_record (m : StoryMeta) (warning : Option Warning) (h : c.WellFormed) :
    (record c m warning).WellFormed := by
  cases warning with
  | none => exact h.insert m
  | some w => exact (h.warn w).insert m

/-- **A catalog after stories with new names** holds them after its own, and has their
warnings. -/
theorem recordAll_spec (h : c.WellFormed) (ts : List (StoryMeta × Option Warning))
    (hd : (ts.map (·.1.name)).Nodup) (hn : ∀ t ∈ ts, t.1.name ∉ c.names) :
    (recordAll c ts).WellFormed ∧ (recordAll c ts).stories = c.stories ++ ts.map (·.1) ∧
      (recordAll c ts).warnings = c.warnings ++ ts.filterMap (·.2) := by
  induction ts generalizing c with
  | nil => exact ⟨h, (List.append_nil _).symm, (List.append_nil _).symm⟩
  | cons t ts ih =>
    obtain ⟨m, warning⟩ := t
    obtain ⟨hm, hn⟩ := List.forall_mem_cons.mp hn
    rw [List.map_cons, List.nodup_cons] at hd
    have hn' : ∀ t ∈ ts, t.1.name ∉ (record c m warning).names := by
      intro t ht
      rw [names_record m warning h hm, List.mem_append, List.mem_singleton, not_or]
      refine ⟨hn t ht, fun he => hd.1 ?_⟩
      rw [← he]
      exact List.mem_map_of_mem ht
    obtain ⟨hw, hs, hg⟩ := ih (wellFormed_record m warning h) hd.2 hn'
    refine ⟨hw, hs.trans ?_, hg.trans ?_⟩
    · rw [stories_record m warning h hm, List.map_cons, List.append_assoc, List.singleton_append]
    · rw [warnings_record, List.append_assoc]
      cases warning <;> rfl

end Extraction

/-- A catalog shows the stories of markers: one story for each of them, in their order and with the
ids that a registry gives them, however the catalog is looked at. -/
structure Catalog.Shows (c : Catalog) (r : RawSource) (g : Registry)
    (ss : List (Element × Option Comment)) : Prop where
  names : c.names.map StaticValue.text = ss.map (·.1.staticValue "name")
  distinct : c.names.Nodup
  order : c.stories.map (·.name) = c.names
  size : c.size = ss.length
  contains : ∀ n, c.contains n = true ↔ n ∈ c.names
  get? : ∀ n m, c.get? n = some m ↔ m ∈ c.stories ∧ m.name = n
  table : ∀ n m, (n, m) ∈ c.table ↔ c.get? n = some m
  keys : (c.table.map (·.1)).Nodup
  stories : List.Forall₂ (StoryMeta.IsOf r) ss c.stories
  ids : c.stories.map (·.id) = (g.resolveAll (callsOf (ss.map (·.1)))).map (·.1)
  warnings : c.warnings = ((ss.map (·.1)).zip c.stories).filterMap fun p =>
    Registry.warningOf r.document.file p.2.name (p.1.staticText? "id") p.2.id

theorem map_text_stories {r : RawSource} {ss : List (Element × Option Comment)}
    {ms : List StoryMeta} (h : List.Forall₂ (StoryMeta.IsOf r) ss ms) :
    ms.map (fun m => StaticValue.text m.name) = ss.map (·.1.staticValue "name") := by
  induction h with
  | nil => rfl
  | cons hm _ ih => rw [List.map_cons, List.map_cons, ih, hm.name]

/-- What markers say makes a catalog with their stories and their warnings. -/
theorem recordAll_tell {r : RawSource} {ss : List (Element × Option Comment)}
    {ys : List Reading} (h : readings r [] (ss.map (·.1)) = .ok ys) (g : Registry) :
    (Extraction.recordAll .empty (tell g ys ss)).WellFormed ∧
      (Extraction.recordAll .empty (tell g ys ss)).stories =
        (tell g ys ss).map (·.1) ∧
      (Extraction.recordAll .empty (tell g ys ss)).warnings =
        (tell g ys ss).filterMap (·.2) := by
  obtain ⟨hall, hd, -⟩ := readings_spec h
  rw [← map_name_tell hall g] at hd
  exact Extraction.recordAll_spec Catalog.wellFormed_empty _ hd fun _ _ => List.not_mem_nil

/-- What markers say makes a catalog that shows their stories. -/
theorem shows_recordAll {r : RawSource} {ss : List (Element × Option Comment)} {ys : List Reading}
    (h : readings r [] (ss.map (·.1)) = .ok ys) {g : Registry} (hfile : g.file = r.document.file) :
    (Extraction.recordAll .empty (tell g ys ss)).Shows r g ss := by
  have hall := (readings_spec h).1
  obtain ⟨hw, hs, hg⟩ := recordAll_tell h g
  have hof := forall₂_tell hall g
  rw [← hs] at hof
  exact {
    names := by
      rw [← hw.map_name_stories, List.map_map]
      exact map_text_stories hof
    distinct := hw.distinct
    order := hw.map_name_stories
    size := by rw [← hw.length_stories, ← hof.length_eq]
    contains := fun n => (hw.mem_names n).symm
    get? := fun n m => hw.get?_eq_some_iff
    table := fun n m => hw.mem_table_iff
    keys := hw.keys
    stories := hof
    ids := by
      rw [hs, List.map_map]
      exact map_id_tell hall g
    warnings := by
      rw [hg, filterMap_warning_tell hall, hs, hfile] }

theorem extract_eq_catalogBy {d : Document} {config : Config} {facts : ScriptFacts}
    (h : ScriptFacts.resolve d.file config.packageName d.root = .ok facts) :
    d.extract config = d.catalogBy config.idHash config.unifyIdSets (d.extractionPlan facts) := by
  unfold Document.extract
  rw [h]
  rfl

/-- The catalog of a document from what its markers say. -/
theorem extract_eq {d : Document} {config : Config} {facts : ScriptFacts}
    (h : ScriptFacts.resolve d.file config.packageName d.root = .ok facts) :
    d.extract config =
      (readings (d.extractionPlan facts).rawSource []
        ((d.root.fragment.sightings facts.markerTag).map (·.1))).map fun ys =>
          Extraction.recordAll .empty
            (tell (.empty d.file config.idHash config.unifyIdSets) ys
              (d.root.fragment.sightings facts.markerTag)) := by
  have fresh : ∀ n, n ∈ (Extraction.start d.file config.idHash config.unifyIdSets).registry.names ↔
      n ∈ ([] : List String) := fun _ => Iff.rfl
  rw [extract_eq_catalogBy h, catalogBy_eq, Extraction.foldlM_act rfl [] fresh, Fragment.sightings, map_fst_sightings]
  rfl

/-- A document with a catalog has scripts in order. -/
theorem exists_facts_of_extract {d : Document} {config : Config} {c : Catalog}
    (hc : d.extract config = .ok c) :
    ∃ facts, ScriptFacts.resolve d.file config.packageName d.root = .ok facts := by
  cases hf : ScriptFacts.resolve d.file config.packageName d.root with
  | error cause =>
    rw [Document.extract, hf] at hc
    cases hc
  | ok facts => exact ⟨facts, rfl⟩

theorem map_fst_fragment_sightings (tag : String) (f : Fragment) :
    (f.sightings tag).map (·.1) = f.markers tag :=
  map_fst_sightings tag none (f.outside tag)

theorem exists_readings_of_extract {d : Document} {config : Config} {facts : ScriptFacts} {c : Catalog}
    (h : ScriptFacts.resolve d.file config.packageName d.root = .ok facts) (hc : d.extract config = .ok c) :
    ∃ ys, readings (d.extractionPlan facts).rawSource []
        ((d.root.fragment.sightings facts.markerTag).map (·.1)) = .ok ys ∧
      Extraction.recordAll .empty
        (tell (.empty d.file config.idHash config.unifyIdSets) ys
          (d.root.fragment.sightings facts.markerTag)) = c := by
  rw [extract_eq h] at hc
  exact map_eq_ok_iff.mp hc

/-- The catalog of a document shows the stories of its markers. -/
theorem shows_of_extract {d : Document} {config : Config} {facts : ScriptFacts} {c : Catalog}
    (h : ScriptFacts.resolve d.file config.packageName d.root = .ok facts) (hc : d.extract config = .ok c) :
    c.Shows (d.extractionPlan facts).rawSource (.empty d.file config.idHash config.unifyIdSets)
      (d.root.fragment.sightings facts.markerTag) := by
  obtain ⟨ys, hy, rfl⟩ := exists_readings_of_extract h hc
  exact shows_recordAll hy rfl

/-- **The outcome of an extraction.** A document has a catalog exactly if each of its markers passes its
checks, and the catalog shows the stories of the markers, each with the latest comment before it;
otherwise the first marker that does not pass gives the cause. -/
theorem extract_outcome {d : Document} {config : Config} {facts : ScriptFacts}
    (h : ScriptFacts.resolve d.file config.packageName d.root = .ok facts) :
    ((∃ c, d.extract config = .ok c) ↔
        AllPass (d.extractionPlan facts).rawSource [] (d.root.fragment.markers facts.markerTag)) ∧
      (∀ c, d.extract config = .ok c →
        (d.root.fragment.sightings facts.markerTag).map (·.1) =
            d.root.fragment.markers facts.markerTag ∧
          c.Shows (d.extractionPlan facts).rawSource (.empty d.file config.idHash config.unifyIdSets)
            (d.root.fragment.sightings facts.markerTag)) ∧
      ∀ cause, d.extract config = .error cause ↔
        FirstFails (d.extractionPlan facts).rawSource [] (d.root.fragment.markers facts.markerTag)
          cause := by
  have hs := map_fst_fragment_sightings facts.markerTag d.root.fragment
  refine ⟨?_, fun c hc => ⟨hs, shows_of_extract h hc⟩, fun cause => ?_⟩
  · rw [extract_eq h, ← hs, ← exists_readings_eq_ok_iff]
    simp only [map_eq_ok_iff]
    exact ⟨fun ⟨_, ys, hy, _⟩ => ⟨ys, hy⟩, fun ⟨ys, hy⟩ => ⟨_, ys, hy, rfl⟩⟩
  · rw [extract_eq h, ← hs, map_eq_error_iff, readings_eq_error_iff]

/-- A marker with a name. -/
def namedMarker (start stop : Nat) (name : String) (nodes : List MarkupNode) : MarkupNode :=
  .element .component
    ⟨⟨start, stop⟩, "Story", [.plain ⟨⟨start, stop⟩, "name", .sequence [.text ⟨⟨start, stop⟩, name⟩]⟩],
      ⟨nodes⟩⟩

/-- A document with a comment, a marker that closes itself after it, and a marker inside an element. -/
def twoStories : Document where
  file := "two.stories"
  source := "<!--x--> <Story name='A' /><b><Story name='B'>t</Story></b>"
  root := ⟨⟨0, 59⟩,
    ⟨[.comment ⟨⟨0, 8⟩, "x"⟩, namedMarker 9 27 "A" [],
      .element .regular ⟨⟨27, 59⟩, "b", [],
        ⟨[namedMarker 30 55 "B" [.text ⟨⟨46, 47⟩, "t"⟩]]⟩⟩]⟩, none, none⟩
  encoding := .utf16

example : (twoStories.extract Config.default).map (·.names) = .ok ["A", "B"] := rfl

/-- Both markers pass their checks, since the document has a catalog. -/
theorem allPass_twoStories :
    ScriptFacts.resolve twoStories.file Config.default.packageName twoStories.root = .ok .none ∧
      AllPass (twoStories.extractionPlan .none).rawSource []
        (twoStories.root.fragment.markers ScriptFacts.none.markerTag) := by
  have h : ScriptFacts.resolve twoStories.file Config.default.packageName twoStories.root = .ok .none := rfl
  exact ⟨h, (extract_outcome h).1.mp ⟨_, rfl⟩⟩

end StoryCatalog
