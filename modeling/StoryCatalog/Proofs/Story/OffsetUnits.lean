import StoryCatalog.Proofs.Story.ByteOffsets

/-!
# Where the unit of offsets matters

The catalogs of a document with UTF-16 offsets and of the same document with offsets in bytes are the same but
for descriptions. A comment describes a marker if the numbers of their offsets differ by one, whatever these
count. So one character between them is one apart in UTF-16, but more than one in bytes if it is not ASCII.

* `describe_inBytes_eq_iff`: when a marker has the same description in both documents.
* `extract_inBytes`: what the catalogs of both have in common, and when they are equal.
* `description_lost_inBytes`: a description that only one of them has.
-/

namespace StoryCatalog

/-! ## Descriptions -/

/-- One character stands between a comment and a marker, and it takes one UTF-16 code unit but several
bytes. -/
def Document.SetsApart (d : Document) (k : Comment) (e : Element) : Prop :=
  ∃ before c after, d.source.toList = before ++ c :: after ∧ Text.measure .utf16 before = k.span.stop ∧
    Text.measure .utf16 (before ++ [c]) = e.span.start ∧ Text.Encoding.utf16.width c = 1 ∧ 1 < c.utf8Size

theorem describe_some (e : Element) (k : Comment) :
    describe (e, some k) =
      if CommentCursor.isAdjacent k e.span.start then some (Text.onText Text.dedent k.data) else none := by
  simp only [describe, CommentCursor.take, Option.filter]
  split <;> rfl

/-- With other offsets a marker has the same description if adjacency stays what it is, and only then. -/
theorem describe_relocateSighting_eq_iff (f : Nat → Nat) (e : Element) (k : Comment) :
    describe (relocateSighting f (e, some k)) = describe (e, some k) ↔
      (WordAdjacent (f k.span.stop) (f e.span.start) ↔ WordAdjacent k.span.stop e.span.start) := by
  have hadj : CommentCursor.isAdjacent (k.relocate f) (e.relocate f).span.start = true ↔
      WordAdjacent (f k.span.stop) (f e.span.start) := by
    rw [e.span_relocate]
    exact isAdjacent_iff
  have hadj' : CommentCursor.isAdjacent k e.span.start = true ↔
      WordAdjacent k.span.stop e.span.start := isAdjacent_iff
  rw [relocateSighting, Option.map_some, describe_some, describe_some, ← hadj, ← hadj']
  cases CommentCursor.isAdjacent (k.relocate f) (e.relocate f).span.start <;>
    cases CommentCursor.isAdjacent k e.span.start <;> simp [Comment.relocate]

/-- In a text that is not too long for it, adjacent offsets are one character of one unit apart. -/
theorem wordAdjacent_measure_iff {cs first rest last rest' : List Char} (hf : cs = first ++ rest)
    (hl : cs = last ++ rest') (hsize : Text.measure .utf8 cs + 1 < Nat.pow 2 64) (u : Text.Encoding) :
    WordAdjacent (Text.measure u first) (Text.measure u last) ↔
      ∃ c, last = first ++ [c] ∧ u.width c = 1 := by
  have hle : Text.measure u first ≤ Text.measure .utf8 first := by
    cases u with
    | utf16 => exact Text.measure_utf16_le first
    | utf8 => exact Nat.le_refl _
  rw [hf, Text.measure_append] at hsize
  rw [← Text.measure_succ_eq_iff (hf.symm.trans hl), WordAdjacent, Nat.mod_eq_of_lt (by omega)]

section

-- A comment and a marker, with the texts before the end of the one and before the start of the other.
variable {d : Document} {e : Element} {k : Comment} {first rest last rest' : List Char}
  (hf : d.source.toList = first ++ rest) (hk : Text.measure .utf16 first = k.span.stop)
  (hl : d.source.toList = last ++ rest') (he : Text.measure .utf16 last = e.span.start)
include hf hk hl he

theorem setsApart_iff :
    d.SetsApart k e ↔
      ∃ c, last = first ++ [c] ∧ Text.Encoding.utf16.width c = 1 ∧ 1 < c.utf8Size := by
  constructor
  · rintro ⟨before, c, after, hs, hb, hbc, hc⟩
    obtain rfl := Text.eq_of_measure_eq (hs.symm.trans hf) (hb.trans hk.symm)
    have hlast : before ++ [c] ++ after = last ++ rest' := by
      rw [List.append_assoc, List.singleton_append, ← hs, hl]
    obtain rfl := Text.eq_of_measure_eq hlast (hbc.trans he.symm)
    exact ⟨c, rfl, hc⟩
  · rintro ⟨c, rfl, hc⟩
    exact ⟨first, c, rest', by rw [hl, List.append_assoc, List.singleton_append], hk, he, hc⟩

/-- **When a marker has the same description in both documents.** -/
theorem describe_inBytes_eq_iff (hsize : Text.measure .utf8 d.source.toList + 1 < Nat.pow 2 64) :
    describe (relocateSighting d.byteOf (e, some k)) = describe (e, some k) ↔ ¬d.SetsApart k e := by
  rw [describe_relocateSighting_eq_iff, setsApart_iff hf hk hl he, ← hk, ← he, byteOf_measure hf,
    byteOf_measure hl, wordAdjacent_measure_iff hf hl hsize, wordAdjacent_measure_iff hf hl hsize]
  constructor
  · rintro h ⟨c, hc, hunit, hbytes⟩
    obtain ⟨c', hc', hone⟩ := h.mpr ⟨c, hc, hunit⟩
    obtain ⟨rfl, -⟩ := List.cons.inj (List.append_cancel_left (hc.symm.trans hc'))
    rw [Text.Encoding.width] at hone
    omega
  · intro h
    constructor
    · rintro ⟨c, hc, hone⟩
      -- A character of one byte is one unit too.
      have hle := Text.width_utf16_le_utf8Size c
      have hpos := Text.Encoding.utf16.width_pos c
      rw [Text.Encoding.width] at hone
      exact ⟨c, hc, by omega⟩
    · rintro ⟨c, hc, hunit⟩
      have hpos := c.utf8Size_pos
      have hone : ¬1 < c.utf8Size := fun hlt => h ⟨c, hc, hunit, hlt⟩
      exact ⟨c, hc, by rw [Text.Encoding.width]; omega⟩

end

/-! ## Stories -/

/-- A story without its description. -/
def StoryMeta.withoutDescription (m : StoryMeta) : StoryMeta :=
  { m with description := none }

section

variable {g : Registry} {ys : List Reading} {ss : List (Element × Option Comment)}
  {p : Element × Option Comment → Element × Option Comment}

/-- The comments before the markers change nothing but descriptions. -/
theorem tell_map_withoutDescription :
    (tell g ys (ss.map p)).map (fun t => (t.1.withoutDescription, t.2)) =
      (tell g ys ss).map fun t => (t.1.withoutDescription, t.2) := by
  induction ys generalizing g ss with
  | nil => rfl
  | cons y ys ih =>
    cases ss with
    | nil => rfl
    | cons s ss =>
      rw [List.map_cons, tell_cons, tell_cons, List.map_cons, List.map_cons, ih]
      rfl

theorem tell_map_of_describe_eq (h : ∀ s ∈ ss, describe (p s) = describe s) :
    tell g ys (ss.map p) = tell g ys ss := by
  induction ys generalizing g ss with
  | nil => rfl
  | cons y ys ih =>
    cases ss with
    | nil => rfl
    | cons s ss =>
      obtain ⟨hs, hss⟩ := List.forall_mem_cons.mp h
      rw [List.map_cons, tell_cons, tell_cons, hs, ih hss]

theorem map_description_of_isOf {r : RawSource} {ms : List StoryMeta}
    (h : List.Forall₂ (StoryMeta.IsOf r) ss ms) : ms.map (·.description) = ss.map describe := by
  induction h with
  | nil => rfl
  | cons hm _ ih => rw [List.map_cons, List.map_cons, ih, hm.description]

variable {r r' : RawSource} (h : readings r [] (ss.map (·.1)) = .ok ys)
  (h' : readings r' [] ((ss.map p).map (·.1)) = .ok ys) (g : Registry)
include h h'

/-- What the catalogs have in common that two runs lead to if the markers say the same in both. -/
theorem recordAll_tell_map :
    (Extraction.recordAll .empty (tell g ys (ss.map p))).names =
        (Extraction.recordAll .empty (tell g ys ss)).names ∧
      (Extraction.recordAll .empty (tell g ys (ss.map p))).warnings =
        (Extraction.recordAll .empty (tell g ys ss)).warnings ∧
      (Extraction.recordAll .empty (tell g ys (ss.map p))).stories.map (·.withoutDescription) =
        (Extraction.recordAll .empty (tell g ys ss)).stories.map (·.withoutDescription) := by
  obtain ⟨hwf, hs, hw⟩ := recordAll_tell h g
  obtain ⟨hwf', hs', hw'⟩ := recordAll_tell h' g
  have hsame : (tell g ys (ss.map p)).map (fun t => (t.1.withoutDescription, t.2)) = _ :=
    tell_map_withoutDescription
  have hstories := congrArg (List.map (·.1)) hsame
  have hwarnings := congrArg (List.filterMap (·.2)) hsame
  rw [List.map_map, List.map_map] at hstories
  rw [List.filterMap_map, List.filterMap_map] at hwarnings
  have hnames := congrArg (List.map (·.name)) hstories
  rw [List.map_map, List.map_map] at hnames
  refine ⟨?_, ?_, ?_⟩
  · rw [← hwf.map_name_stories, ← hwf'.map_name_stories, hs, hs', List.map_map, List.map_map]
    exact hnames
  · rw [hw, hw']
    exact hwarnings
  · rw [hs, hs', List.map_map, List.map_map]
    exact hstories

/-- Such catalogs are equal exactly if all descriptions are. -/
theorem recordAll_tell_map_eq_iff :
    Extraction.recordAll .empty (tell g ys (ss.map p)) =
        Extraction.recordAll .empty (tell g ys ss) ↔
      ∀ s ∈ ss, describe (p s) = describe s := by
  constructor
  · intro heq
    have hd := map_description_of_isOf (forall₂_tell (readings_spec h).1 g)
    have hd' := map_description_of_isOf (forall₂_tell (readings_spec h').1 g)
    rw [← (recordAll_tell h g).2.1] at hd
    rw [← (recordAll_tell h' g).2.1, heq, hd, List.map_map] at hd'
    exact fun s hs => (List.map_inj_left.mp hd' s hs).symm
  · intro hd
    rw [tell_map_of_describe_eq hd]

end

section

variable {d : Document} (hu : d.encoding = .utf16) (hb : d.MarkupOnBoundaries)
include hu hb

theorem describe_inBytes_of_mem {facts : ScriptFacts} {e : Element} {k : Comment}
    (hsize : Text.measure .utf8 d.source.toList + 1 < Nat.pow 2 64)
    (h : (e, some k) ∈ d.root.fragment.sightings facts.markerTag) :
    describe (relocateSighting d.byteOf (e, some k)) = describe (e, some k) ↔ ¬d.SetsApart k e := by
  obtain ⟨he, hk⟩ := Fragment.mem_of_mem_sightings h
  obtain ⟨first, rest, hf, hfk⟩ := (hb _ (hk k rfl)).2
  obtain ⟨last, rest', hl, hle⟩ := (hb _ he).1
  rw [hu] at hfk hle
  exact describe_inBytes_eq_iff hf hfk hl hle hsize

/-- **The unit of the offsets matters for descriptions alone.** If the offsets of the markup fall between the
characters of the text, a document with UTF-16 offsets and the same document with offsets in bytes both have a
catalog or fail for the same cause, and what they have of the stories and warnings is the same but for the
descriptions. The catalogs are equal exactly if no comment is set apart from the marker after it by one
character that takes several bytes. -/
theorem extract_inBytes (config : Config) :
    ((∃ c', d.inBytes.extract config = .ok c') ↔ ∃ c, d.extract config = .ok c) ∧
      (∀ cause, d.extract config = .error cause →
        d.inBytes.extract config = .error (cause.relocate d.byteOf)) ∧
      ∀ c c', d.extract config = .ok c → d.inBytes.extract config = .ok c' →
        c'.names = c.names ∧ c'.warnings = c.warnings ∧
          c'.stories.map (·.withoutDescription) = c.stories.map (·.withoutDescription) ∧
          (Text.measure .utf8 d.source.toList + 1 < Nat.pow 2 64 →
            ∀ facts, ScriptFacts.resolve d.file config.packageName d.root = .ok facts →
              (c' = c ↔ ∀ e k, (e, some k) ∈ d.root.fragment.sightings facts.markerTag →
                ¬d.SetsApart k e)) := by
  rcases extract_inBytes_cases hu hb config with ⟨cause, hd, hd'⟩ | ⟨facts, ys, hf, hy, hy', hd, hd'⟩
  · rw [hd, hd']
    refine ⟨by simp, ?_, nofun⟩
    rintro _ ⟨⟩
    rfl
  · rw [hd, hd']
    refine ⟨iff_of_true ⟨_, rfl⟩ ⟨_, rfl⟩, nofun, ?_⟩
    rintro _ _ ⟨⟩ ⟨⟩
    obtain ⟨hn, hw, hs⟩ := recordAll_tell_map hy hy' (.empty d.file config.idHash config.unifyIdSets)
    refine ⟨hn, hw, hs, fun hsize facts' hf' => ?_⟩
    obtain rfl : facts = facts' := Except.ok.inj (hf.symm.trans hf')
    rw [recordAll_tell_map_eq_iff hy hy']
    constructor
    · intro hd e k hek
      exact (describe_inBytes_of_mem hu hb hsize hek).mp (hd _ hek)
    · rintro hd ⟨e, _ | k⟩ hek
      · rfl
      · exact (describe_inBytes_of_mem hu hb hsize hek).mpr (hd e k hek)

end

theorem relocate_namedMarker (f : Nat → Nat) (start stop : Nat) (name : String) :
    (namedMarker start stop name []).relocate f = namedMarker (f start) (f stop) name [] := rfl

/-- A document with a character of two bytes before a comment, a space and a marker. -/
def accentedStory : Document where
  file := "accented.stories"
  source := "é<!--x--> <Story name='A' />"
  root := ⟨⟨0, 28⟩,
    ⟨[.text ⟨⟨0, 1⟩, "é"⟩, .comment ⟨⟨1, 9⟩, "x"⟩, .text ⟨⟨9, 10⟩, " "⟩, namedMarker 10 28 "A" []]⟩,
    none, none⟩
  encoding := .utf16

theorem onBoundaries_accentedStory : accentedStory.OnBoundaries := by
  intro f hf
  simp [accentedStory, Root.relocate, Fragment.relocate, relocateMarkup, MarkupNode.relocate,
    TextNode.relocate, Comment.relocate, Span.relocate, relocate_namedMarker, hf 0 (by decide),
    hf 1 (by decide), hf 9 (by decide), hf 10 (by decide), hf 28 (by decide)]

theorem not_setsApart_accentedStory {e : Element} {k : Comment}
    (h : (e, some k) ∈ accentedStory.root.fragment.sightings ScriptFacts.none.markerTag) :
    ¬accentedStory.SetsApart k e := by
  rintro ⟨before, c, after, hs, hk, -, -, hlt⟩
  have hseen : (accentedStory.root.fragment.sightings ScriptFacts.none.markerTag).map (·.2) =
      [some ⟨⟨1, 9⟩, "x"⟩] := rfl
  have hmem := List.mem_map_of_mem (f := (·.2)) h
  rw [hseen, List.mem_singleton] at hmem
  obtain rfl := Option.some.inj hmem
  have hspace : Text.splitAt? .utf16 9 accentedStory.source.toList =
      some ("é<!--x-->".toList, ' ' :: "<Story name='A' />".toList) := by decide +kernel
  rw [Text.splitAt?_eq_some_iff.mpr ⟨hs, hk⟩] at hspace
  obtain ⟨-, hc⟩ := Prod.mk.inj (Option.some.inj hspace)
  obtain ⟨rfl, -⟩ := List.cons.inj hc
  exact absurd hlt (by decide)

/-- Its catalog is the same with offsets in bytes, since the space takes one byte. -/
theorem extract_inBytes_accentedStory :
    accentedStory.encoding = .utf16 ∧ accentedStory.MarkupOnBoundaries ∧
      ∃ c c', accentedStory.extract Config.default = .ok c ∧
        accentedStory.inBytes.extract Config.default = .ok c' ∧ c' = c := by
  have hb : accentedStory.MarkupOnBoundaries := onBoundaries_accentedStory.markup
  have hr : ScriptFacts.resolve accentedStory.file Config.default.packageName accentedStory.root = .ok .none := rfl
  have hsize : Text.measure .utf8 accentedStory.source.toList + 1 < Nat.pow 2 64 := by decide
  obtain ⟨c, hc⟩ : ∃ c, accentedStory.extract Config.default = .ok c := ⟨_, rfl⟩
  obtain ⟨hiff, -, hboth⟩ := extract_inBytes rfl hb Config.default
  obtain ⟨c', hc'⟩ := hiff.mpr ⟨c, hc⟩
  obtain ⟨-, -, -, heq⟩ := hboth c c' hc hc'
  exact ⟨rfl, hb, c, c', hc, hc',
    (heq hsize .none hr).mpr fun e k h => not_setsApart_accentedStory h⟩

/-- A document with a no-break space between a comment and a marker. -/
def spacedStory : Document where
  file := "spaced.stories"
  source := "<!--x-->\u00a0<Story name='A' />"
  root := ⟨⟨0, 27⟩,
    ⟨[.comment ⟨⟨0, 8⟩, "x"⟩, .text ⟨⟨8, 9⟩, "\u00a0"⟩, namedMarker 9 27 "A" []]⟩, none, none⟩
  encoding := .utf16

theorem onBoundaries_spacedStory : spacedStory.OnBoundaries := by
  intro f hf
  simp [spacedStory, Root.relocate, Fragment.relocate, relocateMarkup, MarkupNode.relocate,
    TextNode.relocate, Comment.relocate, Span.relocate, relocate_namedMarker, hf 0 (by decide),
    hf 8 (by decide), hf 9 (by decide), hf 27 (by decide)]

/-- A description may be lost with the offsets in bytes. -/
theorem description_lost_inBytes :
    ¬∀ (d : Document) (config : Config), d.encoding = .utf16 → d.OnBoundaries →
      ((∃ c', d.inBytes.extract config = .ok c') ↔ ∃ c, d.extract config = .ok c) ∧
        ∀ c c', d.extract config = .ok c → d.inBytes.extract config = .ok c' → c' = c := by
  intro h
  have hc : spacedStory.extract Config.default =
      .ok ⟨[("A", ⟨"A", "A", some "x", none, some "<UnknownComponent \x7b...args\x7d />"⟩)], ["A"],
        []⟩ := rfl
  have hc' : spacedStory.inBytes.extract Config.default =
      .ok ⟨[("A", ⟨"A", "A", none, none, some "<UnknownComponent \x7b...args\x7d />"⟩)], ["A"],
        []⟩ := rfl
  have heq := (h spacedStory Config.default rfl onBoundaries_spacedStory).2 _ _ hc hc'
  exact absurd heq (by decide)

end StoryCatalog
