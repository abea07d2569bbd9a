import StoryCatalog.Proofs.Text.Slices

/-!
# Boundaries of characters

An offset into a text is a boundary if the units before it are those of whole characters. Slices go from
boundary to boundary: an offset inside a character or beyond the end has no slice on either side, and what lies
between two boundaries in order is a slice.

* `isBoundary_iff_isSome_splitAt?`: boundaries can be found by counting.
* `exists_between`: one of two boundaries comes after the other, with the text between them.
* `not_isBoundary_of_inside`: no boundary lies inside a character.
* `Document.slice_outcome`: which spans have a slice, which text it is, and how slices are put together.
-/

namespace StoryCatalog

namespace Text

/-- An offset falls between the characters of a text, or before the first or after the last of them. -/
def IsBoundary (u : Encoding) (cs : List Char) (n : Nat) : Prop :=
  ∃ before after, cs = before ++ after ∧ measure u before = n

variable {u : Encoding} {cs before after : List Char} {n : Nat}

theorem isBoundary_iff_isSome_splitAt? : IsBoundary u cs n ↔ (splitAt? u n cs).isSome = true := by
  rw [Option.isSome_iff_exists]
  constructor
  · rintro ⟨before, after, h⟩
    exact ⟨(before, after), splitAt?_eq_some_iff.mpr h⟩
  · rintro ⟨⟨before, after⟩, h⟩
    exact ⟨before, after, splitAt?_eq_some_iff.mp h⟩

instance (u : Encoding) (cs : List Char) (n : Nat) : Decidable (IsBoundary u cs n) :=
  decidable_of_iff _ isBoundary_iff_isSome_splitAt?.symm

theorem eq_nil_of_measure_eq_zero (h : measure u cs = 0) : cs = [] := by
  cases cs with
  | nil => rfl
  | cons c cs =>
    have := u.width_pos c
    rw [measure_cons] at h
    omega

/-- **What lies between two boundaries.** -/
theorem exists_between {before' after' : List Char} (h : before ++ after = before' ++ after')
    (hle : measure u before ≤ measure u before') :
    ∃ piece, before' = before ++ piece ∧ after = piece ++ after' := by
  rcases List.append_eq_append_iff.mp h with ⟨piece, hb, ha⟩ | ⟨piece, hb, ha⟩
  · exact ⟨piece, hb, ha⟩
  · rw [hb, measure_append] at hle
    obtain rfl : piece = [] := eq_nil_of_measure_eq_zero (u := u) (by omega)
    exact ⟨[], by rw [hb, List.append_nil, List.append_nil], ha.symm⟩

theorem width_utf16_le_utf8Size (c : Char) : Encoding.utf16.width c ≤ c.utf8Size := by
  have hpos := c.utf8Size_pos
  rw [Encoding.width]
  split
  · exact hpos
  · next hbig =>
    -- A character of one byte is ASCII.
    have hone : c.utf8Size ≠ 1 := by
      intro hone
      rw [Char.utf8Size_eq_one_iff, UInt32.le_iff_toNat_le] at hone
      exact hbig (Nat.lt_of_le_of_lt hone (by decide))
    omega

theorem measure_utf16_le (cs : List Char) : measure .utf16 cs ≤ measure .utf8 cs := by
  induction cs with
  | nil => exact Nat.le_refl 0
  | cons c cs ih => exact Nat.add_le_add (width_utf16_le_utf8Size c) ih

/-- One beginning of a text is one unit longer than another exactly if it has one more character, of one
unit. -/
theorem measure_succ_eq_iff {first rest last rest' : List Char} (h : first ++ rest = last ++ rest') :
    measure u first + 1 = measure u last ↔ ∃ c, last = first ++ [c] ∧ u.width c = 1 := by
  constructor
  · intro hm
    obtain ⟨piece, rfl, -⟩ := exists_between (u := u) h (by omega)
    rw [measure_append] at hm
    cases piece with
    | nil =>
      rw [measure_nil] at hm
      omega
    | cons c piece =>
      have hc := u.width_pos c
      rw [measure_cons] at hm
      obtain rfl : piece = [] := eq_nil_of_measure_eq_zero (u := u) (by omega)
      rw [measure_nil] at hm
      exact ⟨c, rfl, by omega⟩
  · rintro ⟨c, rfl, hc⟩
    rw [measure_append, measure_cons, hc, measure_nil]

/-- **No boundary lies inside a character.** -/
theorem not_isBoundary_of_inside {c : Char} (h₁ : measure u before < n)
    (h₂ : n < measure u (before ++ [c])) : ¬IsBoundary u (before ++ c :: after) n := by
  rintro ⟨first, rest, h, rfl⟩
  obtain ⟨piece, rfl, hp⟩ := exists_between (u := u) h (by omega)
  cases piece with
  | nil =>
    rw [List.append_nil] at h₁
    omega
  | cons d piece =>
    obtain ⟨rfl, -⟩ := List.cons.inj hp
    simp only [measure_append, measure_cons, measure_nil] at h₂
    omega

/-- Nothing is lost by not counting where every character takes one unit. -/
theorem byteOffset?_of_isAsciiText (h : isAsciiText cs = true) (u : Encoding) (n : Nat) :
    byteOffset? u n cs = countTo? n 0 0 cs := by
  have hu : byteOffset? u n cs = byteOffset? .utf16 n cs := by
    rw [byteOffset?, byteOffset?, if_pos (Or.inr h), if_pos (Or.inr h)]
  refine hu.trans (Option.ext fun b => ?_)
  rw [countTo?_eq_some_iff, byteOffset?_utf16]
  simp only [Nat.zero_add]

end Text

namespace Document

open Text

variable {d : Document} {span : Span} {t : String}

/-- The offsets at which the units of a document are those of whole characters. -/
def IsBoundary (d : Document) (n : Nat) : Prop :=
  Text.IsBoundary d.encoding d.source.toList n

instance (d : Document) (n : Nat) : Decidable (d.IsBoundary n) :=
  inferInstanceAs (Decidable (Text.IsBoundary d.encoding d.source.toList n))

theorem exists_slice_iff :
    (∃ t, d.slice? span = some t) ↔
      span.start ≤ span.stop ∧ d.IsBoundary span.start ∧ d.IsBoundary span.stop := by
  constructor
  · rintro ⟨t, ht⟩
    obtain ⟨before, after, hs, hb, hp⟩ := slice?_eq_some_iff.mp ht
    refine ⟨?_, ⟨before, t.toList ++ after, by rw [hs, List.append_assoc], hb⟩,
      ⟨before ++ t.toList, after, hs, hp⟩⟩
    rw [measure_append] at hp
    omega
  · rintro ⟨hle, ⟨before, after, hs, hb⟩, before', after', hs', hb'⟩
    obtain ⟨piece, rfl, rfl⟩ := exists_between (u := d.encoding) (hs.symm.trans hs') (by omega)
    refine ⟨String.ofList piece, slice?_eq_some_iff.mpr ⟨before, after', ?_, hb, ?_⟩⟩
    · rw [String.toList_ofList]
      exact hs'
    · rw [String.toList_ofList]
      exact hb'

theorem slice?_eq_some_iff_lengths :
    d.slice? span = some t ↔ span.start ≤ span.stop ∧
      ∃ before after, d.source.toList = before ++ t.toList ++ after ∧
        measure d.encoding before = span.start ∧
        measure d.encoding t.toList = span.stop - span.start := by
  rw [slice?_eq_some_iff, IsSlice]
  simp only [measure_append]
  constructor
  · rintro ⟨before, after, hs, hb, hp⟩
    exact ⟨by omega, before, after, hs, hb, by omega⟩
  · rintro ⟨hle, before, after, hs, hb, hp⟩
    exact ⟨before, after, hs, hb, by omega⟩

/-- The slice between two boundaries is what has to be added to the text before the first. -/
theorem isSlice_iff_eq_append {first rest last rest' : List Char} (hf : d.source.toList = first ++ rest)
    (hl : d.source.toList = last ++ rest') :
    d.IsSlice ⟨measure d.encoding first, measure d.encoding last⟩ t ↔ last = first ++ t.toList := by
  constructor
  · rintro ⟨before, after, hs, hb, hp⟩
    obtain rfl : before = first :=
      eq_of_measure_eq ((List.append_assoc ..).symm.trans (hs.symm.trans hf)) hb
    exact (eq_of_measure_eq (hs.symm.trans hl) hp).symm
  · rintro rfl
    exact ⟨first, rest', hl, rfl, rfl⟩

/-- Slices that follow each other make up one slice. -/
theorem slice?_append {s m e : Nat} {t u : String} (ht : d.slice? ⟨s, m⟩ = some t)
    (hu : d.slice? ⟨m, e⟩ = some u) : d.slice? ⟨s, e⟩ = some (t ++ u) := by
  obtain ⟨before, after, hs, hb, hm⟩ := slice?_eq_some_iff.mp ht
  obtain ⟨before', after', hs', hm', he⟩ := slice?_eq_some_iff.mp hu
  obtain rfl : before ++ t.toList = before' :=
    eq_of_measure_eq (hs.symm.trans (hs'.trans (List.append_assoc ..))) (hm.trans hm'.symm)
  refine slice?_eq_some_iff.mpr ⟨before, after', ?_, hb, ?_⟩
  · rw [hs', String.toList_append, List.append_assoc, List.append_assoc, List.append_assoc,
      List.append_assoc]
  · rw [String.toList_append, ← List.append_assoc]
    exact he

/-- **Which spans have a slice, and which text it is.** A span has a slice exactly if its offsets are
boundaries of characters in order, and this is the text between them; so an offset inside a character has no
slice on either side, and two slices that follow each other make up the slice of both. Offsets into an ASCII
text are the same whether or not they are counted. -/
theorem slice_outcome (d : Document) :
    (∀ span, (∃ t, d.slice? span = some t) ↔
        span.start ≤ span.stop ∧ d.IsBoundary span.start ∧ d.IsBoundary span.stop) ∧
      (∀ span t, d.slice? span = some t ↔ span.start ≤ span.stop ∧
        ∃ before after, d.source.toList = before ++ t.toList ++ after ∧
          measure d.encoding before = span.start ∧
          measure d.encoding t.toList = span.stop - span.start) ∧
      (∀ n, isAsciiText d.source.toList = true →
        byteOffset? d.encoding n d.source.toList = countTo? n 0 0 d.source.toList) ∧
      (∀ before c after n, d.source.toList = before ++ c :: after → measure d.encoding before < n →
        n < measure d.encoding (before ++ [c]) → ∀ m, d.slice? ⟨n, m⟩ = none ∧ d.slice? ⟨m, n⟩ = none) ∧
      ∀ s m e t u, d.slice? ⟨s, m⟩ = some t → d.slice? ⟨m, e⟩ = some u →
        d.slice? ⟨s, e⟩ = some (t ++ u) := by
  refine ⟨fun _ => exists_slice_iff, fun _ _ => slice?_eq_some_iff_lengths,
    fun n h => byteOffset?_of_isAsciiText h d.encoding n, ?_, fun _ _ _ _ _ => slice?_append⟩
  intro before c after n hs h₁ h₂ m
  have hn : ¬d.IsBoundary n := by
    rw [IsBoundary, hs]
    exact not_isBoundary_of_inside h₁ h₂
  constructor
  · exact Option.eq_none_iff_forall_not_mem.mpr fun t ht => hn (exists_slice_iff.mp ⟨t, ht⟩).2.1
  · exact Option.eq_none_iff_forall_not_mem.mpr fun t ht => hn (exists_slice_iff.mp ⟨t, ht⟩).2.2

/-- A text of characters of two, four and one bytes, with the offset 2 inside a surrogate pair. -/
def mixedText : Document where
  file := "A.svelte"
  source := "é😀<b>"
  root := { span := ⟨0, 6⟩, fragment := .mk [], instanceScript := none, moduleScript := none }
  encoding := .utf16

theorem slices_mixedText :
    mixedText.slice? ⟨0, 3⟩ = some ("é" ++ "😀") ∧ mixedText.slice? ⟨2, 3⟩ = none ∧
      (∃ t, mixedText.slice? ⟨3, 6⟩ = some t) ∧ mixedText.slice? ⟨3, 6⟩ = some "<b>" := by
  obtain ⟨hspan, hpiece, -, hinside, hglue⟩ := slice_outcome mixedText
  refine ⟨hglue 0 1 3 "é" "😀" (by decide) (by decide),
    (hinside ['é'] '😀' ['<', 'b', '>'] 2 (by decide) (by decide) (by decide) 3).1,
    (hspan ⟨3, 6⟩).mpr ⟨by decide, by decide, by decide⟩,
    (hpiece ⟨3, 6⟩ "<b>").mpr ⟨by decide, ['é', '😀'], [], by decide, by decide, by decide⟩⟩

end Document

end StoryCatalog
