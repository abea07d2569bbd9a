import StoryCatalog.Proofs.Story.Descriptions
import StoryCatalog.Proofs.Story.RelocatedFacts
import StoryCatalog.Proofs.Text.Boundaries

/-!
# Documents with offsets in bytes

A document whose offsets count UTF-16 code units has a counterpart whose offsets count bytes. If the offsets of
its markup fall between characters, both have the same slices, and what an extraction reads off the markers of
one it reads off those of the other, or the same check fails.

* `Document.OnBoundaries.markup`: if all offsets of a document fall between characters, those of its markup do.
* `isSlice_inBytes_iff`: both documents have the same slices.
* `RawSource.Recovers.inBytes`, `readings_inBytes`: the sources of the stories and what the markers say.
* `extract_inBytes_cases`: both extractions fail for the same cause, or both tell of the same readings.
-/

namespace StoryCatalog

open Rose

/-! ## Offsets in bytes -/

/-- The byte at which a number of UTF-16 code units of a document ends; a number that ends inside a character
or beyond the end of the text stays as it is. -/
def Document.byteOf (d : Document) (n : Nat) : Nat :=
  (Text.byteOffset? .utf16 n d.source.toList).getD n

theorem byteOf_measure {d : Document} {before after : List Char} (h : d.source.toList = before ++ after) :
    d.byteOf (Text.measure .utf16 before) = Text.measure .utf8 before := by
  have hb : Text.byteOffset? .utf16 (Text.measure .utf16 before) d.source.toList =
      some (Text.measure .utf8 before) := Text.byteOffset?_utf16.mpr ⟨before, after, h, rfl, rfl⟩
  rw [Document.byteOf, hb, Option.getD_some]

/-- The document with its offsets in bytes. -/
def Document.inBytes (d : Document) : Document :=
  ⟨d.file, d.source, d.root.relocate d.byteOf, .utf8⟩

/-- The offsets of the markup nodes of a document fall between the characters of its text. -/
def Document.MarkupOnBoundaries (d : Document) : Prop :=
  ∀ n ∈ preorderAll d.root.fragment.trees, d.IsBoundary n.span.start ∧ d.IsBoundary n.span.stop

/-- All offsets of a document fall between the characters of its text: whatever other numbers are replaced by,
its tree stays the same. -/
def Document.OnBoundaries (d : Document) : Prop :=
  ∀ f : Nat → Nat, (∀ n, d.IsBoundary n → f n = n) → d.root.relocate f = d.root

theorem Document.OnBoundaries.markup {d : Document} (h : d.OnBoundaries) : d.MarkupOnBoundaries := by
  -- This function moves whatever is no boundary.
  let f : Nat → Nat := fun n => if d.IsBoundary n then n else n + 1
  have hfix : ∀ n, f n = n → d.IsBoundary n := by
    intro n hn
    by_contra hb
    have hmoved : f n = n + 1 := if_neg hb
    omega
  have hroot := h f fun n hn => if_pos hn
  have htrees : (preorderAll d.root.fragment.trees).map (·.relocate f) =
      (preorderAll d.root.fragment.trees).map id := by
    rw [← preorderAll_mapAll, ← Fragment.trees_relocate, List.map_id]
    exact congrArg (fun r => preorderAll r.fragment.trees) hroot
  intro n hn
  have hspan : n.span.relocate f = n.span := by
    rw [← n.span_relocate, List.map_inj_left.mp htrees n hn, id]
  exact ⟨hfix _ (congrArg (·.start) hspan), hfix _ (congrArg (·.stop) hspan)⟩

/-! ## Slices -/

section

variable {d : Document} {start stop : Nat}

/-- **Both documents have the same slices.** -/
theorem isSlice_inBytes_iff (hu : d.encoding = .utf16) (hs : d.IsBoundary start)
    (he : d.IsBoundary stop) {t : String} :
    d.inBytes.IsSlice ((Span.mk start stop).relocate d.byteOf) t ↔ d.IsSlice ⟨start, stop⟩ t := by
  obtain ⟨first, rest, hf, rfl⟩ := hs
  obtain ⟨last, rest', hl, rfl⟩ := he
  have hspan : (Span.mk (Text.measure d.encoding first) (Text.measure d.encoding last)).relocate d.byteOf =
      ⟨Text.measure .utf8 first, Text.measure .utf8 last⟩ := by
    rw [Span.relocate, hu, byteOf_measure hf, byteOf_measure hl]
  rw [hspan, Document.isSlice_iff_eq_append hf hl]
  exact Document.isSlice_iff_eq_append (d := d.inBytes) hf hl

end

/-! ## Sources -/

theorem IsFirstSnippet.mem {ns : List MarkupNode} {name : String} {s : Snippet}
    (h : IsFirstSnippet ns name s) : .snippet s ∈ ns := by
  obtain ⟨before, after, rfl, -⟩ := h
  exact List.mem_append_right _ List.mem_cons_self

namespace RawSource

/-- What the source of a story depends on besides its marker, with offsets in bytes. -/
def inBytes (r : RawSource) : RawSource :=
  { r with document := r.document.inBytes }

section

variable {r : RawSource} (hu : r.document.encoding = .utf16) (hb : r.document.MarkupOnBoundaries)
include hu hb

theorem BodyGives.inBytes {g : Fragment} {a : Except Failure (Option String)} (h : r.BodyGives g a)
    (hg : ∀ n ∈ g.nodes, n ∈ preorderAll r.document.root.fragment.trees) :
    r.inBytes.BodyGives (g.relocate r.document.byteOf) (relocateAnswer r.document.byteOf id a) := by
  have hhead : ∀ n, g.nodes.head? = some n →
      (g.relocate r.document.byteOf).nodes.head? = some (n.relocate r.document.byteOf) := by
    intro n hn
    rw [g.nodes_relocate, List.head?_map, hn, Option.map_some]
  have hlast : ∀ n, g.nodes.getLast? = some n →
      (g.relocate r.document.byteOf).nodes.getLast? = some (n.relocate r.document.byteOf) := by
    intro n hn
    rw [g.nodes_relocate, List.getLast?_map, hn, Option.map_some]
  cases h with
  | empty nodes => exact .empty (by rw [g.nodes_relocate, nodes, List.map_nil])
  | slice first last t head getLast slice =>
    have hs := (hb first (hg _ (List.mem_of_head? head))).1
    have he := (hb last (hg _ (List.mem_of_getLast? getLast))).2
    refine .slice _ _ t (hhead _ head) (hlast _ getLast) ?_
    rw [first.span_relocate, last.span_relocate]
    exact (isSlice_inBytes_iff hu hs he).mpr slice
  | outOfBounds first last head getLast noSlice =>
    have hs := (hb first (hg _ (List.mem_of_head? head))).1
    have he := (hb last (hg _ (List.mem_of_getLast? getLast))).2
    have hspan : (relocateAnswer r.document.byteOf id
          (.error (.spanOutOfBounds r.document.file ⟨first.span.start, last.span.stop⟩)) : Except Failure (Option String)) =
        .error (.spanOutOfBounds r.document.file
          ⟨(first.relocate r.document.byteOf).span.start, (last.relocate r.document.byteOf).span.stop⟩) := by
      rw [first.span_relocate, last.span_relocate]
      rfl
    rw [hspan]
    refine .outOfBounds _ _ (hhead _ head) (hlast _ getLast) fun t ht => ?_
    rw [first.span_relocate, last.span_relocate] at ht
    exact noSlice t ((isSlice_inBytes_iff hu hs he).mp ht)

omit hu hb in
theorem refersTo_inBytes_iff {e : Element} {name : String} :
    r.inBytes.RefersTo (e.relocate r.document.byteOf) name ↔ r.RefersTo e name := by
  rw [← standIn?_eq_some_iff, ← standIn?_eq_some_iff, standIn?, standIn?, e.childrenSnippet?_relocate]
  rfl

omit hu hb in
theorem preorderAll_trees_inBytes :
    preorderAll r.inBytes.document.root.fragment.trees =
      (preorderAll r.document.root.fragment.trees).map (·.relocate r.document.byteOf) := by
  rw [← preorderAll_mapAll, ← Fragment.trees_relocate]
  rfl

/-- The source of a story in both documents. -/
theorem Recovers.inBytes {e : Element} {story : String} {a : Except Failure (Option String)}
    (h : r.Recovers e story a)
    (he : .element .component e ∈ preorderAll r.document.root.fragment.trees) :
    r.inBytes.Recovers (e.relocate r.document.byteOf) story (relocateAnswer r.document.byteOf id a) := by
  have hslice : ∀ t, r.inBytes.document.IsSlice (e.relocate r.document.byteOf).span t ↔
      r.document.IsSlice e.span t := by
    intro t
    rw [e.span_relocate]
    exact isSlice_inBytes_iff hu (hb _ he).1 (hb _ he).2
  have hnodes : (e.relocate r.document.byteOf).fragment.nodes =
      e.fragment.nodes.map (·.relocate r.document.byteOf) := by
    rw [e.fragment_relocate, Fragment.nodes_relocate]
  have hinner : ∀ n ∈ e.fragment.nodes, n ∈ preorderAll r.document.root.fragment.trees :=
    fun n hn => Fragment.mem_of_mem_content he hn
  have hbody : ∀ {s : Snippet} {a}, .snippet s ∈ preorderAll r.document.root.fragment.trees →
      r.BodyGives s.body a → r.inBytes.BodyGives (s.relocate r.document.byteOf).body
        (relocateAnswer r.document.byteOf id a) := by
    intro s a hs body
    rw [s.body_relocate]
    exact body.inBytes hu hb fun n hn => Fragment.mem_of_mem_content hs hn
  cases h with
  | outOfBounds noSlice =>
    have ho : r.inBytes.Recovers (e.relocate r.document.byteOf) story _ :=
      .outOfBounds fun t ht => noSlice t ((hslice t).mp ht)
    rwa [e.span_relocate] at ho
  | snippet t slice closed name refers s first a body =>
    exact .snippet t ((hslice t).mpr slice) closed name (refersTo_inBytes_iff.mpr refers) _
      (preorderAll_trees_inBytes ▸ first.relocate _) _ (hbody first.mem body)
  | snippetMissing t slice closed name refers missing =>
    exact .snippetMissing t ((hslice t).mpr slice) closed name (refersTo_inBytes_iff.mpr refers)
      (preorderAll_trees_inBytes ▸ missing.relocate _)
  | placeholder t slice closed noReference =>
    exact .placeholder t ((hslice t).mpr slice) closed fun name hr =>
      noReference name (refersTo_inBytes_iff.mp hr)
  | inlineChildren t slice closed s first a body =>
    exact .inlineChildren t ((hslice t).mpr slice) closed _ (hnodes ▸ first.relocate _) _
      (hbody (hinner _ first.mem) body)
  | content t slice closed noChildren a body =>
    refine .content t ((hslice t).mpr slice) closed (hnodes ▸ noChildren.relocate _) _ ?_
    rw [e.fragment_relocate]
    exact body.inBytes hu hb hinner

end

end RawSource

/-! ## Readings -/

section

variable {r : RawSource} (hu : r.document.encoding = .utf16) (hb : r.document.MarkupOnBoundaries)
include hu hb

/-- A marker says the same in both documents. -/
theorem Element.ReadsAs.inBytes {taken : List String} {e : Element} {y : Reading} (h : e.ReadsAs r taken y)
    (he : .element .component e ∈ preorderAll r.document.root.fragment.trees) :
    (e.relocate r.document.byteOf).ReadsAs r.inBytes taken y where
  name := (e.staticValue_relocate _ _).trans h.name
  fresh := h.fresh
  explicitId := (e.staticValue_relocate _ _).trans h.explicitId
  source := (e.staticValue_relocate _ _).trans h.source
  rawSource := RawSource.recover_of_recovers ((RawSource.recover_eq_iff.mp h.rawSource).inBytes hu hb he)

/-- A marker fails the same check in both documents. -/
theorem Element.FailsWith.inBytes {taken : List String} {e : Element} {c : Failure}
    (h : e.FailsWith r taken c)
    (he : .element .component e ∈ preorderAll r.document.root.fragment.trees) :
    (e.relocate r.document.byteOf).FailsWith r.inBytes taken (c.relocate r.document.byteOf) := by
  have hv : ∀ name, (e.relocate r.document.byteOf).staticValue name = e.staticValue name :=
    e.staticValue_relocate r.document.byteOf
  cases h with
  | nameShape name => exact .nameShape fun o => (hv _).symm ▸ name o
  | nameAbsent name =>
    have hf : (e.relocate r.document.byteOf).FailsWith r.inBytes taken _ :=
      .nameAbsent ((hv _).trans name)
    rwa [e.span_relocate] at hf
  | nameTaken n name seen => exact .nameTaken n ((hv _).trans name) seen
  | idShape n name fresh explicitId =>
    exact .idShape n ((hv _).trans name) fresh fun o => (hv _).symm ▸ explicitId o
  | sourceShape n id name fresh explicitId source =>
    exact .sourceShape n id ((hv _).trans name) fresh ((hv _).trans explicitId)
      fun o => (hv _).symm ▸ source o
  | rawSource n id shown _ name fresh explicitId source rawSource =>
    exact .rawSource n id shown _ ((hv _).trans name) fresh ((hv _).trans explicitId)
      ((hv _).trans source)
      (RawSource.recover_of_recovers ((RawSource.recover_eq_iff.mp rawSource).inBytes hu hb he))

/-- **What the markers say** in both documents. -/
theorem readings_inBytes {es : List Element}
    (hes : ∀ e ∈ es, .element .component e ∈ preorderAll r.document.root.fragment.trees)
    (taken : List String) :
    readings r.inBytes taken (es.map (·.relocate r.document.byteOf)) =
      relocateAnswer r.document.byteOf id (readings r taken es) := by
  induction es generalizing taken with
  | nil => rfl
  | cons e es ih =>
    obtain ⟨he, hes⟩ := List.forall_mem_cons.mp hes
    rw [List.map_cons]
    rcases Element.readsAs_or_failsWith r taken e with ⟨y, hy⟩ | ⟨c, hc⟩
    · rw [readings_cons_of_readsAs hy, readings_cons_of_readsAs (hy.inBytes hu hb he), ih hes]
      cases readings r (taken ++ [y.name]) es <;> rfl
    · rw [readings_cons_of_failsWith hc, readings_cons_of_failsWith (hc.inBytes hu hb he)]
      rfl

end

/-! ## Sightings -/

theorem Fragment.mem_of_mem_outside {tag : String} {g : Fragment} {n : MarkupNode}
    (h : n ∈ g.outside tag) : n ∈ preorderAll g.trees := by
  obtain ⟨x, hx, rfl⟩ := List.mem_map.mp h
  rw [← map_value_places]
  exact List.mem_map_of_mem (List.mem_filter.mp hx).1

/-- A marker that is seen and the comment remembered at it stand in the fragment. -/
theorem Fragment.mem_of_mem_sightings {tag : String} {g : Fragment} {s : Element × Option Comment}
    (h : s ∈ g.sightings tag) :
    .element .component s.1 ∈ preorderAll g.trees ∧
      ∀ k, s.2 = some k → .comment k ∈ preorderAll g.trees := by
  obtain ⟨j, ⟨hj, -⟩, hl⟩ := exists_position_of_mem_sightings h
  refine ⟨mem_of_mem_outside (List.mem_of_getElem? hj), fun k hk => ?_⟩
  have hlt : j < (g.outside tag).length := (List.getElem?_eq_some_iff.mp hj).1
  rw [hl] at hk
  obtain ⟨i, hi⟩ := (foldl_latestComment_eq_some_iff (by omega)).mp hk
  exact mem_of_mem_outside (List.mem_of_getElem? hi.comment)

section

variable {d : Document} {config : Config} {facts : ScriptFacts}

/-- What the markers that are seen say in both documents. -/
theorem readings_sightings_inBytes (hu : d.encoding = .utf16) (hb : d.MarkupOnBoundaries) :
    readings (d.extractionPlan facts).rawSource.inBytes []
        (((d.root.fragment.sightings facts.markerTag).map (relocateSighting d.byteOf)).map (·.1)) =
      relocateAnswer d.byteOf id
        (readings (d.extractionPlan facts).rawSource []
          ((d.root.fragment.sightings facts.markerTag).map (·.1))) := by
  have hes : ∀ e ∈ (d.root.fragment.sightings facts.markerTag).map (·.1),
      .element .component e ∈ preorderAll d.root.fragment.trees := by
    intro e he
    obtain ⟨s, hs, rfl⟩ := List.mem_map.mp he
    exact (Fragment.mem_of_mem_sightings hs).1
  have hm : ((d.root.fragment.sightings facts.markerTag).map (relocateSighting d.byteOf)).map (·.1) =
      ((d.root.fragment.sightings facts.markerTag).map (·.1)).map (·.relocate d.byteOf) := by
    rw [List.map_map, List.map_map]
    rfl
  rw [hm]
  exact readings_inBytes hu hb hes []

/-- The catalog of the document with offsets in bytes, from what its markers say. -/
theorem extract_inBytes_eq (h : ScriptFacts.resolve d.file config.packageName d.root = .ok facts) :
    d.inBytes.extract config =
      (readings (d.extractionPlan facts).rawSource.inBytes []
          (((d.root.fragment.sightings facts.markerTag).map (relocateSighting d.byteOf)).map
            (·.1))).map fun ys =>
        Extraction.recordAll .empty
          (tell (.empty d.file config.idHash config.unifyIdSets) ys
            ((d.root.fragment.sightings facts.markerTag).map (relocateSighting d.byteOf))) := by
  have hr : ScriptFacts.resolve d.inBytes.file config.packageName d.inBytes.root = .ok (facts.relocate d.byteOf) := by
    rw [Document.inBytes, ScriptFacts.resolve_relocate, h]
    rfl
  have hp : (d.inBytes.extractionPlan (facts.relocate d.byteOf)).rawSource =
      (d.extractionPlan facts).rawSource.inBytes := by
    unfold Document.extractionPlan
    rw [ScriptFacts.component?_relocate]
    rfl
  have hs : d.inBytes.root.fragment.sightings (facts.relocate d.byteOf).markerTag =
      (d.root.fragment.sightings facts.markerTag).map (relocateSighting d.byteOf) :=
    Fragment.sightings_relocate _ facts.markerTag _
  rw [extract_eq hr, hp, hs]
  rfl

/-- Either both documents fail, or the markers of both say the same. -/
theorem extract_inBytes_cases (hu : d.encoding = .utf16) (hb : d.MarkupOnBoundaries) (config : Config) :
    (∃ cause, d.extract config = .error cause ∧
        d.inBytes.extract config = .error (cause.relocate d.byteOf)) ∨
      ∃ facts ys, ScriptFacts.resolve d.file config.packageName d.root = .ok facts ∧
        readings (d.extractionPlan facts).rawSource []
          ((d.root.fragment.sightings facts.markerTag).map (·.1)) = .ok ys ∧
        readings (d.extractionPlan facts).rawSource.inBytes []
          (((d.root.fragment.sightings facts.markerTag).map (relocateSighting d.byteOf)).map (·.1)) =
            .ok ys ∧
        d.extract config = .ok (Extraction.recordAll .empty
          (tell (.empty d.file config.idHash config.unifyIdSets) ys
            (d.root.fragment.sightings facts.markerTag))) ∧
        d.inBytes.extract config = .ok (Extraction.recordAll .empty
          (tell (.empty d.file config.idHash config.unifyIdSets) ys
            ((d.root.fragment.sightings facts.markerTag).map (relocateSighting d.byteOf)))) := by
  cases hf : ScriptFacts.resolve d.file config.packageName d.root with
  | error cause =>
    refine .inl ⟨cause, ?_, ?_⟩
    · rw [Document.extract, hf]
      rfl
    · rw [Document.extract, Document.inBytes, ScriptFacts.resolve_relocate, hf]
      rfl
  | ok facts =>
    have hr : readings (d.extractionPlan facts).rawSource.inBytes [] _ = _ :=
      readings_sightings_inBytes hu hb
    rw [extract_eq hf, extract_inBytes_eq hf, hr]
    cases hy : readings (d.extractionPlan facts).rawSource []
        ((d.root.fragment.sightings facts.markerTag).map (·.1)) with
    | error cause => exact .inl ⟨cause, rfl, rfl⟩
    | ok ys =>
      rw [hy] at hr
      exact .inr ⟨facts, ys, rfl, hy, hr, rfl, rfl⟩

end

end StoryCatalog
