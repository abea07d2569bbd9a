import StoryCatalog.Story.Document

/-!
# Slices of a text

A slice of a text between two offsets is a piece that begins where the text before it takes as many
units as the first offset says, and ends where text and piece take as many as the second says.

* `slice?_eq_some_iff`: the slice is the one such piece.
* `countTo?_eq_some_iff`, `measure_of_isAsciiText`: counting, and why it is left out for ASCII texts.
* `slice?_byteOffset?_iff`, `Document.slice?_eq_some_iff`: cutting at byte offsets gives the slice between the
  offsets that they stand for, whether or not these were counted.
* `Document.text_of_isSlice`, `Document.text_of_not_isSlice`: the text of a span that has a slice, and of
  one that has none.
* `isSuffixOf_trimEnd_iff`: what a text ends in, the blanks at its end aside.
-/

namespace StoryCatalog

namespace Text

theorem slice?_eq_some_iff {u : Encoding} {start stop : Nat} {cs piece : List Char} :
    slice? u start stop cs = some piece ↔
      ∃ before after, cs = before ++ piece ++ after ∧ measure u before = start ∧
        measure u (before ++ piece) = stop := by
  unfold slice?
  by_cases h : stop < start
  · rw [if_pos h]
    constructor
    · intro hs
      cases hs
    · rintro ⟨before, after, -, hb, hp⟩
      rw [measure_append] at hp
      omega
  · rw [if_neg h]
    simp only [Option.bind_eq_bind, Option.bind_eq_some_iff, Prod.exists, splitAt?_eq_some_iff]
    constructor
    · rintro ⟨before, rest, ⟨rfl, hb⟩, piece', after, ⟨rfl, hp⟩, ⟨⟩⟩
      refine ⟨before, after, (List.append_assoc before piece after).symm, hb, ?_⟩
      rw [measure_append]
      omega
    · rintro ⟨before, after, rfl, hb, hp⟩
      rw [measure_append] at hp
      exact ⟨before, piece ++ after, ⟨List.append_assoc before piece after, hb⟩, piece, after,
        ⟨rfl, by omega⟩, rfl⟩

/-! ## Byte offsets -/

/-- A text begins in one way with a given number of units. -/
theorem eq_of_measure_eq {u : Encoding} {before before' after after' : List Char}
    (h : before ++ after = before' ++ after') (hm : measure u before = measure u before') :
    before = before' := by
  have hs : splitAt? u (measure u before') (before ++ after) = some (before, after) :=
    splitAt?_eq_some_iff.mpr ⟨rfl, hm⟩
  rw [splitAt?_eq_some_iff.mpr ⟨h, rfl⟩] at hs
  exact (Prod.mk.inj (Option.some.inj hs)).1.symm

theorem countTo?_eq_some_iff {n units bytes b : Nat} {cs : List Char} :
    countTo? n units bytes cs = some b ↔
      ∃ before after, cs = before ++ after ∧ units + measure .utf16 before = n ∧
        bytes + measure .utf8 before = b := by
  induction cs generalizing units bytes with
  | nil =>
    rw [countTo?]
    constructor
    · intro h
      split at h
      · next hn => exact ⟨[], [], rfl, hn, Option.some.inj h⟩
      · cases h
    · rintro ⟨before, after, h, rfl, rfl⟩
      obtain ⟨rfl, rfl⟩ := List.append_eq_nil_iff.mp h.symm
      simp
  | cons c cs ih =>
    have hc := Encoding.utf16.width_pos c
    rw [countTo?]
    by_cases hn : units = n
    · rw [if_pos hn]
      constructor
      · intro h
        exact ⟨[], c :: cs, rfl, hn, Option.some.inj h⟩
      · rintro ⟨_ | ⟨d, before⟩, after, -, hu, rfl⟩
        · rfl
        · have hd := Encoding.utf16.width_pos d
          rw [measure_cons] at hu
          omega
    rw [if_neg hn]
    by_cases hlt : n < units
    · rw [if_pos hlt]
      constructor
      · intro h
        cases h
      · rintro ⟨before, after, -, hu, -⟩
        omega
    · rw [if_neg hlt, ih]
      constructor
      · rintro ⟨before, after, rfl, hu, hb⟩
        refine ⟨c :: before, after, rfl, ?_, ?_⟩
        · rw [measure_cons, ← Nat.add_assoc, hu]
        · rw [measure_cons, ← Nat.add_assoc]
          exact hb
      · rintro ⟨_ | ⟨d, before⟩, after, hs, hu, hb⟩
        · exact absurd hu hn
        · obtain ⟨rfl, rfl⟩ := List.cons.inj hs
          refine ⟨before, after, rfl, ?_, ?_⟩
          · rw [Nat.add_assoc, ← measure_cons, hu]
          · rw [Nat.add_assoc]
            exact hb

theorem width_of_isAscii {c : Char} (h : isAscii c = true) (u : Encoding) : u.width c = 1 := by
  rw [isAscii, decide_eq_true_eq] at h
  cases u with
  | utf16 => exact if_pos (by omega)
  | utf8 =>
    rw [Encoding.width, Char.utf8Size_eq_one_iff, UInt32.le_iff_toNat_le]
    exact Nat.le_of_lt_succ h

/-- An ASCII text takes one unit a character. -/
theorem measure_of_isAsciiText {cs : List Char} (h : isAsciiText cs = true) (u : Encoding) :
    measure u cs = cs.length := by
  induction cs with
  | nil => rfl
  | cons c cs ih =>
    obtain ⟨hc, hcs⟩ := Bool.and_eq_true_iff.mp h
    rw [measure_cons, width_of_isAscii hc, ih hcs, List.length_cons, Nat.add_comm]

theorem byteOffset?_utf8 {n b : Nat} {cs : List Char} :
    byteOffset? .utf8 n cs = some b ↔ n = b ∧ n ≤ measure .utf8 cs := by
  rw [byteOffset?, if_pos (.inl rfl)]
  split <;> simp [*]

/-- **The byte offset for a number of UTF-16 code units**, counted or not. -/
theorem byteOffset?_utf16 {n b : Nat} {cs : List Char} :
    byteOffset? .utf16 n cs = some b ↔
      ∃ before after, cs = before ++ after ∧ measure .utf16 before = n ∧ measure .utf8 before = b := by
  unfold byteOffset?
  by_cases ha : isAsciiText cs = true
  · -- Units of either kind are characters here, also those of a beginning of the text.
    have hall : ∀ {before after}, cs = before ++ after → ∀ u, measure u before = before.length := by
      rintro before after rfl u
      rw [isAsciiText, List.all_append] at ha
      exact measure_of_isAsciiText (Bool.and_eq_true_iff.mp ha).1 u
    rw [if_pos (.inr ha), measure_of_isAsciiText ha]
    constructor
    · intro h
      split at h
      · next hn =>
        obtain rfl := Option.some.inj h
        have hs := (List.take_append_drop n cs).symm
        refine ⟨_, _, hs, ?_, ?_⟩ <;> rw [hall hs, List.length_take_of_le hn]
      · cases h
    · rintro ⟨before, after, hs, hu, hb⟩
      rw [hall hs] at hu hb
      rw [if_pos, ← hu, hb]
      rw [← hu, hs, List.length_append]
      exact Nat.le_add_right _ _
  · rw [if_neg (not_or.mpr ⟨nofun, ha⟩), countTo?_eq_some_iff]
    simp only [Nat.zero_add]

/-- **Cutting at byte offsets** gives the slice between the offsets that they stand for. -/
theorem slice?_byteOffset?_iff {u : Encoding} {start stop : Nat} {cs piece : List Char} :
    (∃ i, byteOffset? u start cs = some i ∧ ∃ j, byteOffset? u stop cs = some j ∧
        slice? .utf8 i j cs = some piece) ↔
      slice? u start stop cs = some piece := by
  cases u with
  | utf8 =>
    simp only [byteOffset?_utf8]
    constructor
    · rintro ⟨_, ⟨rfl, -⟩, _, ⟨rfl, -⟩, h⟩
      exact h
    · intro h
      obtain ⟨before, after, rfl, rfl, rfl⟩ := slice?_eq_some_iff.mp h
      refine ⟨_, ⟨rfl, ?_⟩, _, ⟨rfl, ?_⟩, h⟩ <;> simp only [measure_append] <;> omega
  | utf16 =>
    simp only [byteOffset?_utf16, slice?_eq_some_iff]
    constructor
    · rintro ⟨_, ⟨b, a, hs, rfl, rfl⟩, _, ⟨b', a', hs', rfl, rfl⟩, before, after, h, hb, hp⟩
      have hfirst : before = b :=
        eq_of_measure_eq ((List.append_assoc ..).symm.trans (h.symm.trans hs)) hb
      have hsecond : before ++ piece = b' := eq_of_measure_eq (h.symm.trans hs') hp
      exact ⟨before, after, h, by rw [hfirst], by rw [hsecond]⟩
    · rintro ⟨before, after, h, rfl, rfl⟩
      exact ⟨_, ⟨before, piece ++ after, h.trans (List.append_assoc ..), rfl, rfl⟩, _,
        ⟨before ++ piece, after, h, rfl, rfl⟩, before, after, h, rfl, rfl⟩

/-! ## Blanks at the end -/

/-- A text without its blanks at the end, and these blanks. -/
theorem exists_trimEnd_append (cs : List Char) :
    ∃ blanks, cs = trimEnd cs ++ blanks ∧ ∀ c ∈ blanks, isBlank c = true := by
  refine ⟨(cs.reverse.takeWhile isBlank).reverse, ?_, ?_⟩
  · rw [trimEnd, ← List.reverse_append, List.takeWhile_append_dropWhile, List.reverse_reverse]
  · intro c hc
    exact List.all_eq_true.mp List.all_takeWhile c (List.mem_reverse.mp hc)

theorem trimEnd_append_blanks {cs blanks : List Char} (hb : ∀ c ∈ blanks, isBlank c = true) :
    trimEnd (cs ++ blanks) = trimEnd cs := by
  have hr : ∀ c ∈ blanks.reverse, isBlank c = true := fun c hc => hb c (List.mem_reverse.mp hc)
  rw [trimEnd, List.reverse_append, List.dropWhile_append_of_pos hr, trimEnd]

theorem trimEnd_concat {cs : List Char} {c : Char} (hc : isBlank c = false) :
    trimEnd (cs ++ [c]) = cs ++ [c] := by
  rw [trimEnd, List.reverse_append, List.reverse_singleton, List.singleton_append,
    List.dropWhile_cons_of_neg (by simp [hc]), List.reverse_cons, List.reverse_reverse]

/-- **What a text ends in before its blanks**, if this does not end in a blank itself. -/
theorem isSuffixOf_trimEnd_iff {e cs : List Char} {c : Char} (hc : isBlank c = false) :
    (e ++ [c]).isSuffixOf (trimEnd cs) = true ↔
      ∃ front blanks, cs = front ++ (e ++ [c]) ++ blanks ∧ ∀ b ∈ blanks, isBlank b = true := by
  rw [List.isSuffixOf_iff_suffix]
  constructor
  · rintro ⟨front, hf⟩
    obtain ⟨blanks, hcs, hb⟩ := exists_trimEnd_append cs
    exact ⟨front, blanks, by rw [hf, ← hcs], hb⟩
  · rintro ⟨front, blanks, rfl, hb⟩
    refine ⟨front, ?_⟩
    rw [trimEnd_append_blanks hb, ← List.append_assoc, trimEnd_concat hc]

end Text

namespace Document

/-- A text stands in the source of a document between the offsets of a span. -/
def IsSlice (d : Document) (span : Span) (t : String) : Prop :=
  ∃ before after, d.source.toList = before ++ t.toList ++ after ∧
    Text.measure d.encoding before = span.start ∧
    Text.measure d.encoding (before ++ t.toList) = span.stop

theorem slice?_eq_some_iff {d : Document} {span : Span} {t : String} :
    d.slice? span = some t ↔ d.IsSlice span t := by
  unfold slice? IsSlice
  rw [← Text.slice?_eq_some_iff, ← Text.slice?_byteOffset?_iff]
  by_cases h : span.stop < span.start
  · rw [if_pos h]
    refine ⟨nofun, fun hs => ?_⟩
    rw [Text.slice?_byteOffset?_iff, Text.slice?, if_pos h] at hs
    cases hs
  · rw [if_neg h]
    simp only [Option.bind_eq_bind, Option.bind_eq_some_iff, Option.pure_def, Option.some.injEq]
    constructor
    · rintro ⟨i, hi, j, hj, piece, hp, rfl⟩
      exact ⟨i, hi, j, hj, by rwa [String.toList_ofList]⟩
    · rintro ⟨i, hi, j, hj, hp⟩
      exact ⟨i, hi, j, hj, t.toList, hp, String.ofList_toList⟩

theorem text_of_isSlice {d : Document} {span : Span} {t : String} (h : d.IsSlice span t) :
    d.text span = .ok t :=
  text_eq_ok_iff.mpr (slice?_eq_some_iff.mpr h)

theorem text_of_not_isSlice {d : Document} {span : Span} (h : ∀ t, ¬d.IsSlice span t) :
    d.text span = .error (.spanOutOfBounds d.file span) := by
  have hs : d.slice? span = none :=
    Option.eq_none_iff_forall_not_mem.mpr fun t ht => h t (slice?_eq_some_iff.mp ht)
  rw [text, hs]

end Document

end StoryCatalog
