import StoryCatalog.Proofs.Story.Extractions

/-!
# Which comment describes a story

The only comment that may describe a story is the last one before its marker, with no other marker
between them and outside every marker. It does if it ends one character before the marker, where the
offset after the last word of 64 bits is zero.

* `foldl_latestComment_eq_some_iff`: what an extraction remembers at a marker is this comment.
* `Precedes.unique`: it stands in this relation to one marker only.
* `description_iff`: when a story has a description, and which.
-/

namespace StoryCatalog

/-- Among the markup nodes outside the markers, the one at position `i` is a comment, and neither a
comment nor a marker stands between it and position `j`. -/
structure Precedes (tag : String) (ns : List MarkupNode) (i j : Nat) (k : Comment) : Prop where
  comment : ns[i]? = some (.comment k)
  before : i < j
  between : ∀ l n, i < l → l < j → ns[l]? = some n → n.isComment = false ∧ n.isMarker tag = false

/-- The marker at position `j`. -/
def IsMarkerAt (tag : String) (ns : List MarkupNode) (j : Nat) (e : Element) : Prop :=
  ns[j]? = some (.element .component e) ∧ e.name = tag

section

variable {tag : String} {ns : List MarkupNode} {i j : Nat} {k : Comment}

theorem latestComment_eq_some_iff {latest : Option Comment} {n : MarkupNode} :
    n.latestComment tag latest = some k ↔
      n = .comment k ∨ n.isComment = false ∧ n.isMarker tag = false ∧ latest = some k := by
  cases n with
  | comment c => simp [MarkupNode.latestComment, MarkupNode.isComment]
  | _ => simp [MarkupNode.latestComment, MarkupNode.isComment]

theorem precedes_succ_of_comment (h : ns[j]? = some (.comment k)) : Precedes tag ns j (j + 1) k where
  comment := h
  before := by omega
  between := by
    intro l n h₁ h₂
    omega

theorem Precedes.succ {n : MarkupNode} (h : Precedes tag ns i j k) (hj : ns[j]? = some n)
    (hc : n.isComment = false) (hm : n.isMarker tag = false) : Precedes tag ns i (j + 1) k where
  comment := h.comment
  before := by
    have := h.before
    omega
  between := by
    intro l n' hi hl hn
    by_cases hlj : l = j
    · subst hlj
      rw [hj] at hn
      cases hn
      exact ⟨hc, hm⟩
    · exact h.between l n' hi (by omega) hn

/-- A comment before position `j + 1` stands at `j`, or before `j` and the node at `j` is neither a
comment nor a marker. -/
theorem Precedes.eq_or_pred {n : MarkupNode} (h : Precedes tag ns i (j + 1) k) (hj : ns[j]? = some n) :
    (i = j ∧ n = .comment k) ∨
      Precedes tag ns i j k ∧ n.isComment = false ∧ n.isMarker tag = false := by
  have hlt := h.before
  by_cases hij : i = j
  · subst hij
    have hc := h.comment
    rw [hj] at hc
    cases hc
    exact .inl ⟨rfl, rfl⟩
  · refine .inr ⟨⟨h.comment, by omega, fun l n' hi hl => h.between l n' hi (by omega)⟩, ?_⟩
    exact h.between j n (by omega) (by omega) hj

/-- **What an extraction remembers** before position `j` is the comment that precedes it. -/
theorem foldl_latestComment_eq_some_iff (hj : j ≤ ns.length) :
    (ns.take j).foldl (MarkupNode.latestComment tag) none = some k ↔
      ∃ i, Precedes tag ns i j k := by
  induction j with
  | zero =>
    constructor
    · intro h
      cases h
    · rintro ⟨i, h⟩
      exact absurd h.before (Nat.not_lt_zero i)
  | succ j ih =>
    have hn : ns[j]? = some ns[j] := List.getElem?_eq_getElem (by omega)
    have hstep : (ns.take (j + 1)).foldl (MarkupNode.latestComment tag) none =
        ns[j].latestComment tag ((ns.take j).foldl (MarkupNode.latestComment tag) none) := by
      rw [List.take_add_one, hn, Option.toList_some, List.foldl_append]
      rfl
    rw [hstep, latestComment_eq_some_iff, ih (by omega)]
    constructor
    · rintro (hk | ⟨hc, hm, i, h⟩)
      · exact ⟨j, precedes_succ_of_comment (hn.trans (by rw [hk]))⟩
      · exact ⟨i, h.succ hn hc hm⟩
    · rintro ⟨i, h⟩
      rcases h.eq_or_pred hn with ⟨-, hk⟩ | ⟨h, hc, hm⟩
      · exact .inl hk
      · exact .inr ⟨hc, hm, i, h⟩

/-- **A comment precedes one marker only.** -/
theorem Precedes.unique {j' : Nat} {k' : Comment} {e e' : Element} (h : Precedes tag ns i j k)
    (h' : Precedes tag ns i j' k') (hj : IsMarkerAt tag ns j e) (hj' : IsMarkerAt tag ns j' e') :
    j = j' := by
  have no : ∀ {j j' : Nat} {k : Comment} {e : Element}, Precedes tag ns i j' k →
      IsMarkerAt tag ns j e → i < j → ¬j < j' := by
    intro j j' k e hp hm hi hlt
    have hb := (hp.between j _ hi hlt hm.1).2
    rw [MarkupNode.isMarker, MarkupNode.marker?_eq_some_iff.mpr ⟨rfl, hm.2⟩] at hb
    cases hb
  have h₁ := no h' hj h.before
  have h₂ := no h hj' h'.before
  omega

/-- What is known of a marker that is seen: its position, and the comment remembered there. -/
theorem exists_position_of_mem_sightings {latest : Option Comment} {s : Element × Option Comment}
    (hs : s ∈ sightings tag latest ns) :
    ∃ j, IsMarkerAt tag ns j s.1 ∧
      s.2 = (ns.take j).foldl (MarkupNode.latestComment tag) latest := by
  induction ns generalizing latest with
  | nil => cases hs
  | cons n ns ih =>
    rw [sightings] at hs
    cases hm : n.marker? tag with
    | some e =>
      rw [hm] at hs
      rcases List.mem_cons.mp hs with rfl | hs
      · obtain ⟨rfl, hn⟩ := MarkupNode.marker?_eq_some_iff.mp hm
        exact ⟨0, ⟨rfl, hn⟩, rfl⟩
      · obtain ⟨j, hj, hl⟩ := ih hs
        refine ⟨j + 1, hj, ?_⟩
        rw [List.take_succ_cons, List.foldl_cons, latestComment_of_marker? hm]
        exact hl
    | none =>
      rw [hm] at hs
      obtain ⟨j, hj, hl⟩ := ih hs
      exact ⟨j + 1, hj, hl⟩

end

/-! ## Descriptions -/

theorem isAdjacent_iff {k : Comment} {start : Nat} :
    CommentCursor.isAdjacent k start = true ↔ (k.span.stop + 1) % Nat.pow 2 64 = start :=
  beq_iff_eq

theorem describe_eq_some_iff {s : Element × Option Comment} {text : String} :
    describe s = some text ↔
      ∃ k, s.2 = some k ∧ (k.span.stop + 1) % Nat.pow 2 64 = s.1.span.start ∧
        text = Text.onText Text.dedent k.data := by
  unfold describe CommentCursor.take
  rw [Option.map_eq_some_iff]
  constructor
  · rintro ⟨k, hk, rfl⟩
    obtain ⟨hk, ha⟩ := Option.filter_eq_some_iff.mp hk
    exact ⟨k, hk, isAdjacent_iff.mp ha, rfl⟩
  · rintro ⟨k, hk, ha, rfl⟩
    exact ⟨k, Option.filter_eq_some_iff.mpr ⟨hk, isAdjacent_iff.mpr ha⟩, rfl⟩

theorem exists_sighting_of_mem {r : RawSource} {ss : List (Element × Option Comment)}
    {ms : List StoryMeta} {m : StoryMeta} (h : List.Forall₂ (StoryMeta.IsOf r) ss ms) (hm : m ∈ ms) :
    ∃ s ∈ ss, m.IsOf r s :=
  exists_of_mem_right h hm

/-- The story of the marker at position `j` has this description: the text of the comment that precedes
the marker, if there is one that ends where, by `adjacent`, the marker begins. -/
def HasDescription (adjacent : Nat → Nat → Prop) (tag : String) (ns : List MarkupNode) (j : Nat)
    (e : Element) (description : Option String) : Prop :=
  ∀ text, description = some text ↔
    ∃ i k, Precedes tag ns i j k ∧ adjacent k.span.stop e.span.start ∧
      text = Text.onText Text.dedent k.data

/-- The first offset is one before the second, counted in words of 64 bits. -/
def WordAdjacent (stop start : Nat) : Prop :=
  (stop + 1) % Nat.pow 2 64 = start

/-- The first offset is one before the second. -/
def ExactlyAdjacent (stop start : Nat) : Prop :=
  stop + 1 = start

/-- The comment before a marker ends at the last offset of all, and the marker begins at the first. -/
def WrapsAround (tag : String) (ns : List MarkupNode) (j : Nat) (e : Element) : Prop :=
  ∃ i k, Precedes tag ns i j k ∧ k.span.stop + 1 = Nat.pow 2 64 ∧ e.span.start = 0

theorem hasDescription_of_mem_sightings {tag : String} {ns : List MarkupNode}
    {s : Element × Option Comment} (hs : s ∈ sightings tag none ns) :
    ∃ j, IsMarkerAt tag ns j s.1 ∧ HasDescription WordAdjacent tag ns j s.1 (describe s) := by
  obtain ⟨j, hj, hl⟩ := exists_position_of_mem_sightings hs
  have hlt : j < ns.length := (List.getElem?_eq_some_iff.mp hj.1).1
  refine ⟨j, hj, fun text => ?_⟩
  rw [describe_eq_some_iff]
  constructor
  · rintro ⟨k, hk, ha, ht⟩
    rw [hl] at hk
    obtain ⟨i, hi⟩ := (foldl_latestComment_eq_some_iff (by omega)).mp hk
    exact ⟨i, k, hi, ha, ht⟩
  · rintro ⟨i, k, hi, ha, ht⟩
    refine ⟨k, ?_, ha, ht⟩
    rw [hl]
    exact (foldl_latestComment_eq_some_iff (by omega)).mpr ⟨i, hi⟩

/-- For offsets of 64 bits, counting in words is exact unless it wraps around. -/
theorem exactlyAdjacent_iff {tag : String} {ns : List MarkupNode} {j : Nat} {e : Element}
    {description : Option String} (h : HasDescription WordAdjacent tag ns j e description)
    (hk : ∀ i k, Precedes tag ns i j k → k.span.stop < Nat.pow 2 64) (he : e.span.start < Nat.pow 2 64) :
    HasDescription ExactlyAdjacent tag ns j e description ↔ ¬WrapsAround tag ns j e := by
  constructor
  · rintro hx ⟨i, k, hi, hstop, hstart⟩
    have hd : description = some (Text.onText Text.dedent k.data) := by
      refine (h _).mpr ⟨i, k, hi, ?_, rfl⟩
      rw [WordAdjacent, hstop, hstart, Nat.mod_self]
    obtain ⟨_, k', -, ha, -⟩ := (hx _).mp hd
    rw [ExactlyAdjacent, hstart] at ha
    omega
  · intro hw text
    rw [h text]
    refine exists_congr fun i => exists_congr fun k => and_congr_right fun hi =>
      and_congr_left fun _ => ?_
    have hlt := hk i k hi
    unfold WordAdjacent ExactlyAdjacent
    by_cases hstop : k.span.stop + 1 = Nat.pow 2 64
    · have hne : e.span.start ≠ 0 := fun hstart => hw ⟨i, k, hi, hstop, hstart⟩
      rw [hstop, Nat.mod_self]
      omega
    · rw [Nat.mod_eq_of_lt (by omega)]

/-- **Which comment describes a story.** For each story of a catalog it is the comment that precedes
its marker, if it ends one word before the marker; for offsets of 64 bits this is the comment that ends
exactly before it, unless the offsets wrap around. No comment precedes two markers. -/
theorem description_iff {d : Document} {config : Config} {c : Catalog}
    (hc : d.extract config = .ok c) :
    ∃ facts, ScriptFacts.resolve d.file config.packageName d.root = .ok facts ∧
      (∀ m ∈ c.stories, ∃ j e,
        IsMarkerAt facts.markerTag (d.root.fragment.outside facts.markerTag) j e ∧
        e.staticValue "name" = .text m.name ∧
        HasDescription WordAdjacent facts.markerTag (d.root.fragment.outside facts.markerTag) j e
          m.description ∧
        ((∀ i k, Precedes facts.markerTag (d.root.fragment.outside facts.markerTag) i j k →
            k.span.stop < Nat.pow 2 64) → e.span.start < Nat.pow 2 64 →
          (HasDescription ExactlyAdjacent facts.markerTag
              (d.root.fragment.outside facts.markerTag) j e m.description ↔
            ¬WrapsAround facts.markerTag (d.root.fragment.outside facts.markerTag) j e))) ∧
      ∀ i j j' k k' e e',
        Precedes facts.markerTag (d.root.fragment.outside facts.markerTag) i j k →
        Precedes facts.markerTag (d.root.fragment.outside facts.markerTag) i j' k' →
        IsMarkerAt facts.markerTag (d.root.fragment.outside facts.markerTag) j e →
        IsMarkerAt facts.markerTag (d.root.fragment.outside facts.markerTag) j' e' → j = j' := by
  cases hf : ScriptFacts.resolve d.file config.packageName d.root with
  | error cause =>
    rw [Document.extract, hf] at hc
    cases hc
  | ok facts =>
    refine ⟨facts, rfl, fun m hm => ?_, fun _ _ _ _ _ _ _ h h' hj hj' => h.unique h' hj hj'⟩
    have hshows := shows_of_extract hf hc
    obtain ⟨s, hs, hof⟩ := exists_sighting_of_mem hshows.stories hm
    obtain ⟨j, hj, hd⟩ := hasDescription_of_mem_sightings hs
    rw [← hof.description] at hd
    exact ⟨j, s.1, hj, hof.name, hd, fun hk he => exactlyAdjacent_iff hd hk he⟩

/-- The stories of a document with one comment, before its first marker. -/
theorem description_iff_twoStories :
    ∃ c facts, twoStories.extract Config.default = .ok c ∧
      ScriptFacts.resolve twoStories.file Config.default.packageName twoStories.root = .ok facts ∧
      ∀ m ∈ c.stories, ∃ j e,
        IsMarkerAt facts.markerTag (twoStories.root.fragment.outside facts.markerTag) j e ∧
        e.staticValue "name" = .text m.name ∧
        HasDescription WordAdjacent facts.markerTag
          (twoStories.root.fragment.outside facts.markerTag) j e m.description := by
  obtain ⟨c, hc⟩ : ∃ c, twoStories.extract Config.default = .ok c := ⟨_, rfl⟩
  obtain ⟨facts, hf, hm, -⟩ := description_iff hc
  refine ⟨c, facts, hc, hf, fun m hm' => ?_⟩
  obtain ⟨j, e, hj, hn, hd, -⟩ := hm m hm'
  exact ⟨j, e, hj, hn, hd⟩

example : (twoStories.extract Config.default).map (·.stories.map (·.description)) =
    .ok [some "x", none] := rfl

/-- A document whose comment ends at the last offset and whose marker begins at the first. -/
def wrappedOffsets : Document where
  file := "wrapped.stories"
  source := "<Story name='A' />"
  root := ⟨⟨0, 18⟩, ⟨[.comment ⟨⟨0, 0xffffffffffffffff⟩, "x"⟩, namedMarker 0 18 "A" []]⟩, none, none⟩
  encoding := .utf16

/-- A comment may describe a story that does not begin after it. -/
theorem described_after_wrapping :
    ¬∀ (d : Document) (config : Config) (c : Catalog), d.extract config = .ok c →
      ∃ facts, ScriptFacts.resolve d.file config.packageName d.root = .ok facts ∧
        ∀ m ∈ c.stories, ∃ j e,
          IsMarkerAt facts.markerTag (d.root.fragment.outside facts.markerTag) j e ∧
          e.staticValue "name" = .text m.name ∧
          HasDescription ExactlyAdjacent facts.markerTag
            (d.root.fragment.outside facts.markerTag) j e m.description := by
  intro h
  have hc : wrappedOffsets.extract Config.default =
      .ok ⟨[("A", ⟨"A", "A", some "x", none, some "<UnknownComponent \x7b...args\x7d />"⟩)], ["A"],
        []⟩ := rfl
  obtain ⟨facts, hf, hm⟩ := h wrappedOffsets Config.default _ hc
  obtain rfl : ScriptFacts.none = facts := Except.ok.inj hf
  obtain ⟨j, e, ⟨hj, -⟩, -, hd⟩ := hm _ List.mem_cons_self
  obtain ⟨_, k, -, ha, -⟩ := (hd "x").mp rfl
  have ho : wrappedOffsets.root.fragment.outside ScriptFacts.none.markerTag =
      [.comment ⟨⟨0, 0xffffffffffffffff⟩, "x"⟩, namedMarker 0 18 "A" []] := rfl
  rw [ho] at hj
  -- The comment is no marker, and the marker begins before anything can end.
  rcases j with _ | _ | j
  · cases hj
  · cases hj
    exact Nat.succ_ne_zero _ ha
  · cases hj

end StoryCatalog
