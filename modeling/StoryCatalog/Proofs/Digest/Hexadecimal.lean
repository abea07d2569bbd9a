import StoryCatalog.Digest.Fold
import StoryCatalog.Digest.Md5

/-!
# Hexadecimal numerals

The digits that a number is written with in base sixteen are a numeral of it: small letters only, the right value,
and no zero in front.

* `isHexNumeral_toDigits`: the digits of a number are a numeral of it.
* `mem_hexDigits_of_mem_md5Hex`: an MD5 digest is written in the same digits.
-/

namespace StoryCatalog.Digest

variable {d : Char} {k n : Nat} {ds : List Char}

/-- The lower-case hexadecimal digits, each at the place of its value. -/
def hexDigits : List Char :=
  ['0', '1', '2', '3', '4', '5', '6', '7', '8', '9', 'a', 'b', 'c', 'd', 'e', 'f']

/-- The number that hexadecimal digits spell. -/
def hexValue (ds : List Char) : Nat :=
  ds.foldl (fun value d => 16 * value + hexDigits.idxOf d) 0

/-- Digits that write a number, without zeros in front. -/
structure IsHexNumeral (ds : List Char) (n : Nat) : Prop where
  digits : ∀ d ∈ ds, d ∈ hexDigits
  value : hexValue ds = n
  ne_nil : ds ≠ []
  /-- Only zero itself is written with a zero in front. -/
  leading : ds.head? = some '0' → ds = ['0']

theorem digitChar_spec (h : k < 16) :
    Nat.digitChar k ∈ hexDigits ∧ hexDigits.idxOf (Nat.digitChar k) = k := by
  have hall : ∀ k : Fin 16, Nat.digitChar k ∈ hexDigits ∧ hexDigits.idxOf (Nat.digitChar k) = k := by decide
  exact hall ⟨k, h⟩

theorem hexValue_concat (ds : List Char) (d : Char) : hexValue (ds ++ [d]) = 16 * hexValue ds + hexDigits.idxOf d := by
  rw [hexValue, List.foldl_append]
  rfl

theorem isHexNumeral_digitChar (h : k < 16) : IsHexNumeral [Nat.digitChar k] k := by
  obtain ⟨hmem, hvalue⟩ := digitChar_spec h
  refine ⟨fun d hd => List.mem_singleton.mp hd ▸ hmem, ?_, List.cons_ne_nil _ _, fun hzero => ?_⟩
  · exact (hexValue_concat [] _).trans (by rw [hvalue]; exact Nat.zero_add k)
  · rw [Option.some.inj hzero]

/-- A numeral of a number other than zero goes on with any digit. -/
theorem IsHexNumeral.concat (h : IsHexNumeral ds n) (hn : n ≠ 0) (hk : k < 16) :
    IsHexNumeral (ds ++ [Nat.digitChar k]) (16 * n + k) := by
  obtain ⟨hmem, hvalue⟩ := digitChar_spec hk
  refine ⟨fun d hd => ?_, by rw [hexValue_concat, h.value, hvalue], by simp, fun hzero => ?_⟩
  · rcases List.mem_append.mp hd with hd | hd
    · exact h.digits d hd
    · exact List.mem_singleton.mp hd ▸ hmem
  · obtain ⟨d, ds', rfl⟩ := List.exists_cons_of_ne_nil h.ne_nil
    have hdigits := h.leading hzero
    rw [← h.value, hdigits] at hn
    exact absurd rfl hn

/-- **The digits of a number are a numeral of it.** -/
theorem isHexNumeral_toDigits (n : Nat) : IsHexNumeral (Nat.toDigits 16 n) n := by
  induction n using Nat.strongRecOn with
  | _ n ih =>
    rw [Nat.toDigits_eq_if (by decide)]
    split
    · next h => exact isHexNumeral_digitChar h
    · next h =>
      have hread := (ih (n / 16) (by omega)).concat (by omega) (Nat.mod_lt n (by decide))
      rwa [Nat.div_add_mod] at hread

theorem mem_hexDigits_of_mem_hexByte {b : UInt8} (h : d ∈ hexByte b) : d ∈ hexDigits := by
  have hb : b.toNat < 256 := b.toNat_lt
  rw [hexByte, List.mem_cons, List.mem_singleton] at h
  rcases h with rfl | rfl
  · exact (digitChar_spec (by omega)).1
  · exact (digitChar_spec (Nat.mod_lt _ (by decide))).1

theorem mem_hexDigits_of_mem_md5Hex {bytes : List UInt8} (h : d ∈ md5Hex bytes) : d ∈ hexDigits := by
  obtain ⟨b, -, hd⟩ := List.mem_flatMap.mp h
  exact mem_hexDigits_of_mem_hexByte hd

end StoryCatalog.Digest
