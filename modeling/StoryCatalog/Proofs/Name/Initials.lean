import StoryCatalog.Text.Case
import StoryCatalog.Proofs.Text.Ascii

/-!
# Letters stay letters in lower case

What a name begins with decides whether it can be written where a name is expected, and lower case does not
change it: the image of a letter begins with a letter, that of a numeral with a numeral, and an ASCII digit is
its own image. Beyond ASCII this is read off the tables run by run: a run and the run of its images lie within
one range of numerals each, or outside all of them.

* `inRanges_of_covered`, `inRanges_of_avoided`: characters of a run within one range, or outside all of them.
* `keepsKind_toLowerRuns`: the runs of the lower-case mapping.
* `SameKind`: characters that are letters, numerals and ASCII digits alike.
* `exists_lowerChar_eq`, `exists_lower_eq`: what the lower-case image of a character, and of a text, begins
  with.
-/

namespace StoryCatalog.Text

variable {c d : Char} {first last : Nat} {ranges : List (Nat × Nat)}

/-! ## Runs and ranges -/

/-- Whether the first range that does not end before `first` holds the code points from `first` to `last`.
Numbers are compared by `Nat.ble` and `Nat.blt`, which evaluate fast on whole tables. -/
def covered : List (Nat × Nat) → Nat → Nat → Bool
  | [], _, _ => false
  | r :: ranges, first, last =>
    if r.2.blt first then covered ranges first last else r.1.ble first && last.ble r.2

/-- Whether the first range that does not end before `first` begins after `last`. -/
def avoided : List (Nat × Nat) → Nat → Nat → Bool
  | [], _, _ => true
  | r :: ranges, first, last => if r.2.blt first then avoided ranges first last else last.blt r.1

/-- Whether each range begins no later than the next one. -/
def ascending : List (Nat × Nat) → Bool
  | r :: s :: ranges => r.1.ble s.1 && ascending (s :: ranges)
  | _ => true

theorem inRanges_of_covered (h : covered ranges first last = true) (hf : first ≤ c.toNat)
    (hl : c.toNat ≤ last) : inRanges ranges c = true := by
  induction ranges with
  | nil => cases h
  | cons r ranges ih =>
    rw [covered] at h
    rw [inRanges, List.any_cons, Bool.or_eq_true]
    split at h
    · exact .inr (ih h)
    · rw [Bool.and_eq_true, Nat.ble_eq, Nat.ble_eq] at h
      left
      rw [Bool.and_eq_true, decide_eq_true_eq, decide_eq_true_eq]
      exact ⟨Nat.le_trans h.1 hf, Nat.le_trans hl h.2⟩

theorem le_of_ascending {r s : Nat × Nat} (h : ascending (r :: ranges) = true) (hs : s ∈ ranges) : r.1 ≤ s.1 := by
  induction ranges generalizing r with
  | nil => cases hs
  | cons q ranges ih =>
    rw [ascending, Bool.and_eq_true, Nat.ble_eq] at h
    rcases List.mem_cons.mp hs with rfl | hs
    · exact h.1
    · exact Nat.le_trans h.1 (ih h.2 hs)

theorem ascending_of_cons {r : Nat × Nat} (h : ascending (r :: ranges) = true) : ascending ranges = true := by
  cases ranges with
  | nil => rfl
  | cons q ranges => exact (Bool.and_eq_true_iff.mp h).2

theorem inRanges_of_avoided (ha : ascending ranges = true) (h : avoided ranges first last = true)
    (hf : first ≤ c.toNat) (hl : c.toNat ≤ last) : inRanges ranges c = false := by
  induction ranges with
  | nil => rfl
  | cons r ranges ih =>
    rw [avoided] at h
    split at h
    · next hr =>
      rw [Nat.blt_eq] at hr
      rw [inRanges, List.any_cons, ← inRanges, ih (ascending_of_cons ha) h, Bool.or_false,
        Bool.and_eq_false_iff, decide_eq_false_iff_not, decide_eq_false_iff_not]
      omega
    · rw [Nat.blt_eq] at h
      -- The ranges that follow begin even later.
      rw [inRanges, List.any_eq_false]
      intro s hs
      have hrs : r.1 ≤ s.1 := (List.mem_cons.mp hs).elim (fun h => h ▸ Nat.le_refl _) (le_of_ascending ha)
      rw [Bool.and_eq_true, decide_eq_true_eq, decide_eq_true_eq]
      omega

/-! ## The kind of a character -/

/-- A letter or numeral and another character are of one kind. -/
structure SameKind (c d : Char) : Prop where
  numeric : isNumeric d = isNumeric c
  /-- What is no numeral is a letter. -/
  letter : isNumeric c = false → isAlphabetic d = true
  digit : d.isDigit = c.isDigit

instance (c d : Char) : Decidable (SameKind c d) :=
  decidable_of_iff
    (isNumeric d = isNumeric c ∧ (isNumeric c = false → isAlphabetic d = true) ∧ d.isDigit = c.isDigit)
    ⟨fun h => ⟨h.1, h.2.1, h.2.2⟩, fun h => ⟨h.numeric, h.letter, h.digit⟩⟩

theorem SameKind.refl (h : isAlphanumeric c = true) : SameKind c c := by
  refine ⟨rfl, fun hn => ?_, rfl⟩
  rwa [isAlphanumeric, hn, Bool.or_false] at h

theorem sameKind_toLower (ha : isAscii c = true) (h : isAlphanumeric c = true) : SameKind c c.toLower := by
  refine forall_ascii (P := fun c => isAlphanumeric c = true → SameKind c c.toLower) ?_ ha h
  decide

theorem isDigit_of_not_ascii (h : isAscii c = false) : c.isDigit = false := by
  rw [Bool.eq_false_iff]
  intro hdigit
  cases h.symm.trans (isAscii_of_isDigit hdigit)

/-! ## The tables of the lower-case mapping -/

/-- Whether the images of a run of first, last, step and target are letters, and numerals exactly if the
characters of the run are. -/
def keepsKind : Nat × Nat × Nat × Nat → Bool
  | (first, last, _, target) =>
    if target + (last - first) < 128 then
      97 ≤ target && target + (last - first) ≤ 122 && avoided numericRanges first last
    else
      128 ≤ target && (target + (last - first) < 0xd800 || 0xdfff < target && target + (last - first) < 0x110000) &&
        covered alphabeticRanges target (target + (last - first)) &&
        (avoided numericRanges first last && avoided numericRanges target (target + (last - first)) ||
          covered numericRanges first last && covered numericRanges target (target + (last - first)))

theorem ascending_numericRanges : ascending numericRanges = true := by
  decide +kernel

theorem keepsKind_toLowerRuns : toLowerRuns.all keepsKind = true := by
  decide +kernel

theorem exists_run_of_mapOnRuns {runs : List (Nat × Nat × Nat × Nat)} {n m : Nat}
    (h : mapOnRuns runs n = some m) :
    ∃ first last step target, (first, last, step, target) ∈ runs ∧ first ≤ n ∧ n ≤ last ∧
      m = target + (n - first) := by
  obtain ⟨⟨first, last, step, target⟩, hmem, hrun⟩ := List.exists_of_findSome?_eq_some h
  simp only [onRun, Option.ite_none_right_eq_some, Bool.and_eq_true, decide_eq_true_eq, Option.some.injEq] at hrun
  exact ⟨first, last, step, target, hmem, hrun.1.1.1, hrun.1.1.2, hrun.2.symm⟩

theorem isNumeric_of_not_ascii (h : isAscii c = false) : isNumeric c = inRanges numericRanges c := by
  rw [isNumeric, h, if_neg Bool.false_ne_true]

theorem isAlphabetic_of_not_ascii (h : isAscii c = false) : isAlphabetic c = inRanges alphabeticRanges c := by
  rw [isAlphabetic, h, if_neg Bool.false_ne_true]

/-- A letter beyond ASCII may have a small letter of ASCII for its image. -/
theorem sameKind_smallLetter {m : Nat} (hc : isAscii c = false) (hn : isNumeric c = false) (hlo : 97 ≤ m)
    (hhi : m ≤ 122) : SameKind c (Char.ofNat m) := by
  have hsmall : ∀ m : Fin 128, 97 ≤ m.val → m.val ≤ 122 → isNumeric (Char.ofNat m) = false ∧
      isAlphabetic (Char.ofNat m) = true ∧ (Char.ofNat m).isDigit = false := by
    decide
  obtain ⟨hnum, halpha, hdigit⟩ := hsmall ⟨m, by omega⟩ hlo hhi
  exact ⟨hnum.trans hn.symm, fun _ => halpha, hdigit.trans (isDigit_of_not_ascii hc).symm⟩

/-- Beyond ASCII the kind of a character is read off the tables. -/
theorem sameKind_of_not_ascii (hc : isAscii c = false) (hd : isAscii d = false)
    (hn : inRanges numericRanges d = inRanges numericRanges c) (ha : inRanges alphabeticRanges d = true) :
    SameKind c d := by
  refine ⟨?_, fun _ => ?_, ?_⟩
  · rw [isNumeric_of_not_ascii hc, isNumeric_of_not_ascii hd, hn]
  · rw [isAlphabetic_of_not_ascii hd, ha]
  · rw [isDigit_of_not_ascii hc, isDigit_of_not_ascii hd]

/-- **A run whose images are of one kind with its characters.** -/
theorem sameKind_of_keepsKind {step target : Nat} (h : keepsKind (first, last, step, target) = true)
    (hc : isAscii c = false) (hf : first ≤ c.toNat) (hl : c.toNat ≤ last) :
    SameKind c (Char.ofNat (target + (c.toNat - first))) := by
  have hm : target ≤ target + (c.toNat - first) := Nat.le_add_right _ _
  have hstop : target + (c.toNat - first) ≤ target + (last - first) := by omega
  generalize target + (c.toNat - first) = m at hm hstop
  rw [keepsKind] at h
  split at h
  · simp only [Bool.and_eq_true, decide_eq_true_eq] at h
    obtain ⟨⟨hlo, hhi⟩, hav⟩ := h
    have hn : isNumeric c = false := by
      rw [isNumeric_of_not_ascii hc, inRanges_of_avoided ascending_numericRanges hav hf hl]
    exact sameKind_smallLetter hc hn (Nat.le_trans hlo hm) (Nat.le_trans hstop hhi)
  · simp only [Bool.and_eq_true, Bool.or_eq_true, decide_eq_true_eq] at h
    obtain ⟨⟨⟨hlo, hvalid⟩, hcov⟩, hnum⟩ := h
    have hnat : (Char.ofNat m).toNat = m := by
      have hchar : m.isValidChar := by
        rw [Nat.isValidChar]
        omega
      rw [Char.ofNat, dif_pos hchar]
      rfl
    have hd : isAscii (Char.ofNat m) = false := by
      rw [isAscii, hnat, decide_eq_false_iff_not]
      omega
    have hlow : target ≤ (Char.ofNat m).toNat := hnat.symm ▸ hm
    have hhigh : (Char.ofNat m).toNat ≤ target + (last - first) := hnat.symm ▸ hstop
    refine sameKind_of_not_ascii hc hd ?_ (inRanges_of_covered hcov hlow hhigh)
    rcases hnum with ⟨hfrom, hto⟩ | ⟨hfrom, hto⟩
    · rw [inRanges_of_avoided ascending_numericRanges hfrom hf hl,
        inRanges_of_avoided ascending_numericRanges hto hlow hhigh]
    · rw [inRanges_of_covered hfrom hf hl, inRanges_of_covered hto hlow hhigh]

/-! ## What a text begins with in lower case -/

/-- **What a letter or numeral begins with in lower case.** -/
theorem exists_lowerChar_eq (h : isAlphanumeric c = true) : ∃ d rest, lowerChar c = d :: rest ∧ SameKind c d := by
  cases ha : isAscii c with
  | true => exact ⟨c.toLower, [], lowerChar_of_ascii ha, sameKind_toLower ha h⟩
  | false =>
    rw [lowerChar, ha, if_neg Bool.false_ne_true, mapChar]
    split
    · next image himage =>
      -- Only the dotted capital I has an image of several characters.
      rw [toLowerMany, List.lookup_cons, List.lookup_nil] at himage
      split at himage
      · next hi =>
        obtain rfl := Option.some.inj himage
        obtain rfl : c = 'İ' := by
          rw [← Char.ofNat_toNat c, beq_iff_eq.mp hi]
        exact ⟨'i', ['\u0307'], by decide, by decide⟩
      · cases himage
    · cases hrun : mapOnRuns toLowerRuns c.toNat with
      | none => exact ⟨c, [], rfl, SameKind.refl h⟩
      | some m =>
        obtain ⟨first, last, step, target, hmem, hf, hl, rfl⟩ := exists_run_of_mapOnRuns hrun
        have hrun := List.all_eq_true.mp keepsKind_toLowerRuns _ hmem
        exact ⟨_, [], rfl, sameKind_of_keepsKind hrun ha hf hl⟩

/-- **What a text begins with in lower case** if it begins with a letter or numeral. A capital sigma is mapped
to the small sigma here, since no word ends where none has begun. -/
theorem exists_lower_eq (h : isAlphanumeric c = true) (cs : List Char) :
    ∃ d rest, lower (c :: cs) = d :: rest ∧ SameKind c d := by
  rw [lower, lowerFrom]
  by_cases hc : c = 'Σ'
  · subst hc
    refine ⟨'σ', lowerFrom ['Σ'] cs, ?_, by decide⟩
    rw [if_pos rfl, endsWord, goesOnCased]
    rfl
  · obtain ⟨d, rest, hd, hk⟩ := exists_lowerChar_eq h
    exact ⟨d, rest ++ lowerFrom [c] cs, by rw [if_neg hc, hd, List.cons_append], hk⟩

end StoryCatalog.Text
