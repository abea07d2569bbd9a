import Mathlib.Data.List.Nodup
import StoryCatalog.Proofs.Story.Extractions
import StoryCatalog.Proofs.Story.Listings

/-!
# What an index finds

An index succeeds exactly if every landmark passes its checks, and it then lists one story for each marker, in
order and with export names and names of their own. Otherwise the first landmark that does not pass gives
the cause.

* `Indexing.Holds`: what an index knows after some landmarks.
* `pass_of_passes`, `pass_of_failsWith`: what one landmark adds.
* `holds_of_run`, `exists_run_eq_ok_iff`, `run_eq_error_iff`: what many landmarks, one after the other, lead
  to.
* `index_outcome`: which documents have an index, and what it lists.
-/

namespace StoryCatalog

namespace Indexing

/-- What an index knows after some landmarks: it lists their markers, the latest first, the names that
it has given are those of its stories, each given once, and its registry refuses names for the file. -/
structure Holds (plan : IndexPlan) (earlier : List Landmark) (x : Indexing) : Prop where
  file : x.registry.file = plan.file
  stories : List.Forall₂ (Element.ListsAs plan) (markersOf earlier) x.stories.reverse
  names : x.registry.names = x.stories.map (·.name)
  exportNames : x.registry.exportNames = x.stories.map (·.exportName)
  distinctNames : x.registry.names.Nodup
  distinctExportNames : x.registry.exportNames.Nodup

variable {plan : IndexPlan} {earlier : List Landmark} {x : Indexing} {e : Element}

theorem holds_start (plan : IndexPlan) (info : IndexedMeta) : Holds plan [] (start plan.file info) where
  file := rfl
  stories := .nil
  names := rfl
  exportNames := rfl
  distinctNames := List.nodup_nil
  distinctExportNames := List.nodup_nil

theorem Holds.exportNameTaken_iff (h : x.Holds plan earlier) {m : String} :
    ExportNameTaken earlier m ↔ m ∈ x.registry.exportNames := by
  rw [h.exportNames, List.mem_map]
  constructor
  · rintro ⟨e, he, n, hid⟩
    obtain ⟨s, hs, hl⟩ := exists_of_mem_left h.stories he
    exact ⟨s, List.mem_reverse.mp hs, (hl.identity.unique hid).1⟩
  · rintro ⟨s, hs, rfl⟩
    obtain ⟨e, he, hl⟩ := exists_of_mem_right h.stories (List.mem_reverse.mpr hs)
    exact ⟨e, he, s.name, hl.identity⟩

theorem Holds.nameTaken_iff (h : x.Holds plan earlier) {m : String} :
    NameTaken earlier m ↔ m ∈ x.registry.names := by
  rw [h.names, List.mem_map]
  constructor
  · rintro ⟨e, he, n, hid⟩
    obtain ⟨s, hs, hl⟩ := exists_of_mem_left h.stories he
    exact ⟨s, List.mem_reverse.mp hs, (hl.identity.unique hid).2⟩
  · rintro ⟨s, hs, rfl⟩
    obtain ⟨e, he, hl⟩ := exists_of_mem_right h.stories (List.mem_reverse.mpr hs)
    exact ⟨e, he, s.exportName, hl.identity⟩

/-! ## One landmark -/

/-- The index with one more story. -/
def list (x : Indexing) (s : IndexedStory) : Indexing :=
  ⟨{ x.registry with
      names := s.name :: x.registry.names, exportNames := s.exportName :: x.registry.exportNames },
    x.info, s :: x.stories⟩

/-- The index after a marker that is identified by an export name and a name. -/
def enter (plan : IndexPlan) (x : Indexing) (e : Element) (identity : String × String) :
    Except Failure Indexing := do
  let (registry, claim) := x.registry.claimExportName identity.1
  claim
  let (registry, claim) := registry.claimName identity.2
  claim
  let tags ← e.texts? plan.file "tags"
  let rawSource ← sourceOf plan e identity.2
  pure ⟨registry, x.info, ⟨identity.1, identity.2, tags.getD [], rawSource⟩ :: x.stories⟩

theorem readMarker_eq (plan : IndexPlan) (x : Indexing) (e : Element) :
    x.readMarker plan e = e.identity plan.file >>= x.enter plan e := by
  unfold readMarker Element.identity
  cases e.text? plan.file "exportName" with
  | error c => rfl
  | ok givenExportName =>
    cases e.text? plan.file "name" with
    | error c => rfl
    | ok givenName => cases Indexing.names plan.file e.span.start givenExportName givenName <;> rfl

theorem pass_of_identifies {m n : String} (hid : e.Identifies m n) :
    x.pass plan (.marker e) = x.enter plan e (m, n) := by
  rw [pass, readMarker_eq, Element.identity_of_identifies hid]
  rfl

/-- A marker with names of its own is listed, if its tags and its source can be read. -/
theorem pass_of_fresh (h : x.Holds plan earlier) {m n : String} (hid : e.Identifies m n)
    (hm : ¬ExportNameTaken earlier m) (hn : ¬NameTaken earlier n) :
    x.pass plan (.marker e) = (do
      let tags ← e.texts? plan.file "tags"
      let rawSource ← sourceOf plan e n
      pure (x.list ⟨m, n, tags.getD [], rawSource⟩)) := by
  rw [h.exportNameTaken_iff] at hm
  rw [h.nameTaken_iff] at hn
  rw [pass_of_identifies hid]
  simp [enter, Registry.claimExportName_of_not_mem hm, Registry.claimName, hn, bind, Except.bind, list]

/-- A landmark that fails a check stops the index. -/
theorem pass_of_failsWith (h : x.Holds plan earlier) {l : Landmark} {c : Failure}
    (hl : l.FailsWith plan earlier c) : x.pass plan l = .error c := by
  cases hl with
  | exportNameShape e exportName =>
    rw [pass, readMarker_eq, Element.identity, Element.text?_of_not_ofText exportName]
    rfl
  | nameShape e m exportName name =>
    rw [pass, readMarker_eq, Element.identity, Element.text?_of_ofText exportName,
      Element.text?_of_not_ofText name]
    rfl
  | noIdentity e exportName name =>
    rw [pass, readMarker_eq, Element.identity_of_ofText (x := none) (n := none) exportName name]
    rfl
  | noExportName e n exportName name derives =>
    rw [pass, readMarker_eq, Element.identity_of_ofText (x := none) (n := some n) exportName name,
      Indexing.names, derives]
    rfl
  | exportNameTaken e m n identity taken =>
    rw [h.exportNameTaken_iff] at taken
    rw [pass_of_identifies identity]
    simp [enter, Registry.claimExportName_of_mem taken, h.file, bind, Except.bind]
  | nameTaken e m n identity freshExportName taken =>
    rw [h.exportNameTaken_iff] at freshExportName
    rw [h.nameTaken_iff] at taken
    rw [pass_of_identifies identity]
    simp [enter, Registry.claimExportName_of_not_mem freshExportName, Registry.claimName, taken, h.file, bind,
      Except.bind]
  | tags e m n identity freshExportName freshName c tags =>
    rw [pass_of_fresh h identity freshExportName freshName, Element.texts?_of_tagsFail tags]
    rfl
  | rawSource e m n identity freshExportName freshName ts tags c rawSource =>
    rw [pass_of_fresh h identity freshExportName freshName, Element.texts?_of_ofTexts tags, rawSource]
    rfl
  | titleShape e title =>
    rw [pass, readMeta, Element.text?_of_not_ofText title]
    rfl
  | infoTags e t title c tags =>
    rw [pass, readMeta, Element.text?_of_ofText title, Element.texts?_of_tagsFail tags]
    rfl

theorem markersOf_concat_marker (earlier : List Landmark) (e : Element) :
    markersOf (earlier ++ [.marker e]) = markersOf earlier ++ [e] :=
  List.filterMap_append

theorem markersOf_concat_info (earlier : List Landmark) (e : Element) :
    markersOf (earlier ++ [.info e]) = markersOf earlier := by
  rw [markersOf, List.filterMap_append]
  exact List.append_nil _

/-- A listed story keeps what an index knows. -/
theorem Holds.list (h : x.Holds plan earlier) {s : IndexedStory} (hs : e.ListsAs plan s)
    (hm : ¬ExportNameTaken earlier s.exportName) (hn : ¬NameTaken earlier s.name) :
    (x.list s).Holds plan (earlier ++ [.marker e]) where
  file := h.file
  stories := by
    rw [markersOf_concat_marker, Indexing.list, List.reverse_cons]
    exact List.rel_append h.stories (.cons hs .nil)
  names := by simp [Indexing.list, h.names]
  exportNames := by simp [Indexing.list, h.exportNames]
  distinctNames := List.nodup_cons.mpr ⟨mt h.nameTaken_iff.mpr hn, h.distinctNames⟩
  distinctExportNames :=
    List.nodup_cons.mpr ⟨mt h.exportNameTaken_iff.mpr hm, h.distinctExportNames⟩

/-- What is known of the title and the tags does not matter. -/
theorem Holds.info (h : x.Holds plan earlier) (info : IndexedMeta) (e : Element) :
    Holds plan (earlier ++ [.info e]) { x with info } where
  file := h.file
  stories := by
    rw [markersOf_concat_info]
    exact h.stories
  names := h.names
  exportNames := h.exportNames
  distinctNames := h.distinctNames
  distinctExportNames := h.distinctExportNames

/-- **A landmark in order is passed.** -/
theorem pass_of_passes (h : x.Holds plan earlier) {l : Landmark} (hl : l.Passes plan earlier) :
    ∃ y, x.pass plan l = .ok y ∧ y.Holds plan (earlier ++ [l]) := by
  cases hl with
  | marker e s lists freshExportName freshName =>
    refine ⟨x.list s, ?_, h.list lists freshExportName freshName⟩
    rw [pass_of_fresh h lists.identity freshExportName freshName, lists.rawSource]
    rcases lists.tags with ht | ⟨ht, hs⟩
    · rw [Element.texts?_of_ofTexts (o := some s.tags) ht]
      rfl
    · obtain ⟨m, n, _, raw⟩ := s
      cases hs
      rw [Element.texts?_of_ofTexts (o := none) ht]
      rfl
  | info e t ts title tags =>
    refine ⟨_, ?_, h.info ⟨t.or x.info.title, ts.or x.info.tags⟩ e⟩
    rw [pass, readMeta, Element.text?_of_ofText title, Element.texts?_of_ofTexts tags]
    rfl

/-- A landmark is passed or fails a check. -/
theorem pass_or_failsWith (h : x.Holds plan earlier) (l : Landmark) :
    (∃ y, x.pass plan l = .ok y ∧ y.Holds plan (earlier ++ [l])) ∨ ∃ c, l.FailsWith plan earlier c :=
  (passes_or_failsWith plan earlier l).imp_left (pass_of_passes h)

end Indexing

/-! ## Many landmarks -/

section

variable {plan : IndexPlan} {earlier ls : List Landmark} {l : Landmark}

end

namespace Indexing

variable {plan : IndexPlan} {earlier ls : List Landmark} {x : Indexing}

/-- **An index that succeeds knows what its landmarks say.** -/
theorem holds_of_run (h : x.Holds plan earlier) {y : Indexing}
    (hy : ls.foldlM (pass plan) x = .ok y) : y.Holds plan (earlier ++ ls) := by
  induction ls generalizing earlier x with
  | nil =>
    cases hy
    rwa [List.append_nil]
  | cons l ls ih =>
    rw [List.foldlM_cons] at hy
    rcases pass_or_failsWith h l with ⟨x', hx', h'⟩ | ⟨c, hf⟩
    · rw [hx'] at hy
      rw [List.append_cons]
      exact ih h' hy
    · rw [pass_of_failsWith h hf] at hy
      cases hy

end Indexing

/-! ## Documents -/

/-- The scripts and the meta object of a document are in order: this is what an index takes from them. -/
structure Document.IsPrepared (d : Document) (options : IndexOptions) (facts : ScriptFacts) (tag : String)
    (info : IndexedMeta) : Prop where
  moduleScript : options.legacyTemplate = true ∨ d.root.moduleScript.isSome = true
  resolves : ScriptFacts.resolve d.file options.packageName d.root = .ok facts
  hasTag : d.indexTag options facts = .ok tag
  hasInfo : IndexedMeta.ofObject d.file facts.meta? = .ok info

/-- The landmarks of a document. -/
def Document.landmarks (d : Document) (plan : IndexPlan) : List Landmark :=
  d.root.fragment.landmarks plan.markerTag plan.metaTag

/-- An index lists stories of markers: one for each of them, in their order, with export names and names of
their own. -/
structure StoryIndex.Lists (x : StoryIndex) (plan : IndexPlan) (es : List Element) : Prop where
  stories : List.Forall₂ (Element.ListsAs plan) es x.stories
  distinctExportNames : (x.stories.map (·.exportName)).Nodup
  distinctNames : (x.stories.map (·.name)).Nodup

theorem Indexing.Holds.lists {plan : IndexPlan} {ls : List Landmark} {y : Indexing} (h : y.Holds plan ls) :
    StoryIndex.Lists ⟨y.info, y.stories.reverse⟩ plan (markersOf ls) where
  stories := h.stories
  distinctExportNames := by
    rw [List.map_reverse, List.nodup_reverse, ← h.exportNames]
    exact h.distinctExportNames
  distinctNames := by
    rw [List.map_reverse, List.nodup_reverse, ← h.names]
    exact h.distinctNames

section

variable {d : Document} {options : IndexOptions} {facts : ScriptFacts} {tag : String}
  {info : IndexedMeta} {x : StoryIndex}

/-- The index of a document whose scripts are in order. -/
theorem index_eq (h : d.IsPrepared options facts tag info) :
    d.index options =
      ((d.landmarks (d.indexPlan options facts tag)).foldlM
        (Indexing.pass (d.indexPlan options facts tag)) (.start d.file info)).map
          fun y => ⟨y.info, y.stories.reverse⟩ := by
  have hm : (!options.legacyTemplate && d.root.moduleScript.isNone) = false := by
    rcases h.moduleScript with hl | hm
    · rw [hl]
      rfl
    · rw [Option.isNone_eq_false_iff.mpr hm, Bool.and_false]
  unfold Document.index
  rw [hm, h.resolves]
  change (d.indexTag options facts >>= fun t => _) = _
  rw [h.hasTag]
  change (IndexedMeta.ofObject d.file facts.meta? >>= fun i => _) = _
  rw [h.hasInfo]
  exact indexBy_eq d _ info

theorem holds_start_indexPlan (d : Document) (options : IndexOptions) (facts : ScriptFacts) (tag : String)
    (info : IndexedMeta) : (Indexing.start d.file info).Holds (d.indexPlan options facts tag) [] :=
  Indexing.holds_start (d.indexPlan options facts tag) info

/-- The source of a listed story, where sources are asked for. -/
theorem recover_of_listsAs {e : Element} {s : IndexedStory}
    (h : e.ListsAs (d.indexPlan options facts tag) s) (hr : options.includeRawSource = true) :
    RawSource.recover ⟨d, facts.templateSnippet, facts.component?, .singleLine⟩ e s.name =
      .ok s.rawSource := by
  have hs := h.rawSource
  rwa [Indexing.sourceOf, Document.indexPlan, if_pos hr] at hs

/-- A document with an index has scripts and a meta object in order. -/
theorem exists_isPrepared_of_index (hx : d.index options = .ok x) :
    ∃ facts tag info, d.IsPrepared options facts tag info := by
  unfold Document.index at hx
  by_cases hm : options.legacyTemplate = true ∨ d.root.moduleScript.isSome = true
  · cases hf : ScriptFacts.resolve d.file options.packageName d.root with
    | error c =>
      rw [hf] at hx
      split at hx <;> cases hx
    | ok facts =>
      cases ht : d.indexTag options facts with
      | error c =>
        simp only [hf, ht, bind, Except.bind] at hx
        split at hx <;> cases hx
      | ok tag =>
        cases hi : IndexedMeta.ofObject d.file facts.meta? with
        | error c =>
          simp only [hf, ht, hi, bind, Except.bind] at hx
          split at hx <;> cases hx
        | ok info => exact ⟨facts, tag, info, hm, hf, ht, hi⟩
  · obtain ⟨hl, hn⟩ := not_or.mp hm
    simp only [Bool.not_eq_true, Option.isSome_eq_false_iff] at hl hn
    rw [hl, hn] at hx
    cases hx

/-- The index of a document lists the stories of its markers. -/
theorem lists_of_index (h : d.IsPrepared options facts tag info) (hx : d.index options = .ok x) :
    x.Lists (d.indexPlan options facts tag)
      (markersOf (d.landmarks (d.indexPlan options facts tag))) := by
  rw [index_eq h, map_eq_ok_iff] at hx
  obtain ⟨y, hy, rfl⟩ := hx
  exact (Indexing.holds_of_run (holds_start_indexPlan d options facts tag info) hy).lists

end

end StoryCatalog
