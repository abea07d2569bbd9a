import Mathlib.Algebra.BigOperators.Fin
import Mathlib.Tactic.Ring
import StoryCatalog.Proofs.Digest.Hexadecimal
import StoryCatalog.Text.Units

/-!
# The fold as a sum

Each step of the fold multiplies what has been gathered by 31 and adds a code unit, modulo `2 ^ 32` and with a sign.
So after all steps each code unit counts as often as 31 has been multiplied after it, and the remainder need be
taken only once, at the end.

* `utf16_codeUnits`: the code units are those of UTF-16.
* `toInt_foldUnit`, `toInt_foldl_foldUnit`: one step, and all steps.
* `foldHex_outcome`: the fold of a text is the sum of its weighted code units, and is written as the numeral of its
  absolute value, the least fold included.
-/

namespace StoryCatalog.Digest

open Text (Encoding measure)

variable {c : Char} {cs : List Char}

/-! ## Code units -/

/-- How UTF-16 writes a character: as one unit, or as a high and a low surrogate that hold ten bits each of what the
code point exceeds `0x10000` by. -/
inductive Utf16 (c : Char) : List Nat → Prop where
  | single (h : c.toNat < 0x10000) : Utf16 c [c.toNat]
  | pair {high low : Nat} (hhigh : 0xd800 ≤ high ∧ high < 0xdc00) (hlow : 0xdc00 ≤ low ∧ low < 0xe000)
    (h : c.toNat = 0x10000 + (high - 0xd800) * 0x400 + (low - 0xdc00)) : Utf16 c [high, low]

theorem toNat_lt (c : Char) : c.toNat < 0x110000 := by
  rcases c.valid with h | ⟨-, h⟩
  · exact Nat.lt_trans h (by decide)
  · exact h

theorem utf16_codeUnits (c : Char) : Utf16 c (codeUnits c) := by
  have hc := toNat_lt c
  rw [codeUnits]
  split
  · next h => exact .single h
  · next h => exact .pair (by omega) (by omega) (by omega)

theorem length_codeUnits (c : Char) : (codeUnits c).length = Encoding.utf16.width c := by
  rw [codeUnits, Encoding.width]
  split <;> rfl

/-- The code units of a text. -/
def units (cs : List Char) : List Nat :=
  cs.flatMap codeUnits

theorem length_units (cs : List Char) : (units cs).length = measure .utf16 cs := by
  induction cs with
  | nil => rfl
  | cons c cs ih =>
    rw [units] at ih ⊢
    rw [List.flatMap_cons, List.length_append, length_codeUnits, ih, Text.measure_cons]

/-! ## Steps of the fold -/

/-- The sum of some units, each times 31 for every unit after it. -/
def weigh : List Nat → Nat
  | [] => 0
  | u :: us => u * 31 ^ us.length + weigh us

theorem weigh_eq_sum (us : List Nat) :
    weigh us = ∑ i : Fin us.length, us[i] * 31 ^ (us.length - (i + 1)) := by
  induction us with
  | nil => rfl
  | cons u us ih =>
    rw [weigh, ih]
    refine Eq.trans ?_ (Fin.sum_univ_succ _).symm
    congr 1
    refine Finset.sum_congr rfl fun i _ => ?_
    have hafter : us.length - (i + 1) = (u :: us).length - (i.succ + 1) := by
      rw [List.length_cons, Fin.val_succ, Nat.succ_sub_succ]
    exact congrArg (us[i] * 31 ^ ·) hafter

/-- **One step of the fold.** -/
theorem toInt_foldUnit (acc : Int32) (u : Nat) :
    (foldUnit acc u).toInt = (acc.toInt * 31 + u).bmod (2 ^ 32) := by
  have h31 : (31 : Int32).toInt = 31 := by decide
  rw [foldUnit, Int32.toInt_add, Int32.toInt_mul, h31, Int32.toInt_ofNat', Int.bmod_add_bmod]
  exact Int.add_bmod_bmod

/-- **All steps of the fold.** -/
theorem toInt_foldl_foldUnit (acc : Int32) (us : List Nat) :
    (us.foldl foldUnit acc).toInt = (acc.toInt * 31 ^ us.length + weigh us).bmod (2 ^ 32) := by
  induction us generalizing acc with
  | nil =>
    rw [List.foldl_nil, List.length_nil, weigh, pow_zero, mul_one, Nat.cast_zero, add_zero]
    exact (Int32.toInt_bmod acc).symm
  | cons u us ih =>
    have hsum : (acc.toInt * 31 + u) * 31 ^ us.length + (weigh us : Int) =
        acc.toInt * 31 ^ (us.length + 1) + ((u * 31 ^ us.length + weigh us : Nat) : Int) := by
      push_cast
      ring
    rw [List.foldl_cons, ih, toInt_foldUnit, List.length_cons, weigh, ← hsum, ← Int.bmod_add_bmod,
      Int.bmod_mul_bmod, Int.bmod_add_bmod]

theorem toInt_fold (cs : List Char) : (fold cs).toInt = (weigh (units cs) : Int).bmod (2 ^ 32) := by
  rw [fold, foldFrom, toInt_foldl_foldUnit, Int32.toInt_zero, zero_mul, zero_add]
  rfl

/-! ## The digits of the fold -/

theorem natAbs_fold_lt (cs : List Char) : (fold cs).toInt.natAbs < 16 ^ 8 := by
  have hlow := (fold cs).le_toInt
  have hhigh := (fold cs).toInt_lt
  omega

theorem length_foldHex_le (cs : List Char) : (foldHex cs).length ≤ 8 :=
  (Nat.length_toDigits_le_iff (by decide) (by decide)).mpr (natAbs_fold_lt cs)

theorem isHexNumeral_foldHex (cs : List Char) : IsHexNumeral (foldHex cs) (fold cs).toInt.natAbs :=
  isHexNumeral_toDigits _

/-- The least fold has an absolute value like any other, and no other fold has the same one. -/
theorem foldHex_eq_iff_least (cs : List Char) :
    foldHex cs = ['8', '0', '0', '0', '0', '0', '0', '0'] ↔ (fold cs).toInt = -2 ^ 31 := by
  constructor
  · intro h
    have hvalue := (isHexNumeral_foldHex cs).value
    have hhigh := (fold cs).toInt_lt
    rw [h] at hvalue
    have hleast : hexValue ['8', '0', '0', '0', '0', '0', '0', '0'] = 2 ^ 31 := by decide
    omega
  · intro h
    rw [foldHex, h]
    decide

/-- **What the fold of a text is and how it is written.** -/
theorem foldHex_outcome (cs : List Char) :
    (∀ c ∈ cs, Utf16 c (codeUnits c)) ∧
      (fold cs).toInt =
        ((∑ i : Fin (units cs).length, (units cs)[i] * 31 ^ ((units cs).length - (i + 1)) : Nat) : Int).bmod
          (2 ^ 32) ∧
      IsHexNumeral (foldHex cs) (fold cs).toInt.natAbs ∧
      (1 ≤ (foldHex cs).length ∧ (foldHex cs).length ≤ 8) ∧
      (foldHex cs = ['8', '0', '0', '0', '0', '0', '0', '0'] ↔ (fold cs).toInt = -2 ^ 31) ∧
      ∀ rest, (fold (cs ++ rest)).toInt =
        ((fold cs).toInt * 31 ^ measure .utf16 rest + (fold rest).toInt).bmod (2 ^ 32) := by
  refine ⟨fun c _ => utf16_codeUnits c, ?_, isHexNumeral_foldHex cs, ⟨?_, length_foldHex_le cs⟩,
    foldHex_eq_iff_least cs, fun rest => ?_⟩
  · rw [← weigh_eq_sum]
    exact toInt_fold cs
  · exact List.length_pos_of_ne_nil (isHexNumeral_foldHex cs).ne_nil
  · rw [fold_append, foldFrom, toInt_foldl_foldUnit, toInt_fold rest, Int.add_bmod_bmod, ← length_units]
    rfl

/-- The least fold is reached. -/
example : foldHex "polygenelubricants".toList = ['8', '0', '0', '0', '0', '0', '0', '0'] := by
  decide +kernel

end StoryCatalog.Digest
