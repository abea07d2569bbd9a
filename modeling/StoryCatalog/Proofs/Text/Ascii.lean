import StoryCatalog.Text.Letter

/-!
# The ASCII characters

There are few of them, so what a test on characters comes to on ASCII is seen by going through them all. The
classes of capitals, small letters and digits hold ASCII characters only.

* `forall_ascii`: what holds of the ASCII characters one by one.
* `capital_classes`, `small_classes`, `digit_classes`: how the three classes stand to the Unicode ones.
-/

namespace StoryCatalog.Text

variable {c : Char}

/-- **What holds of the ASCII characters one by one** holds of each of them. -/
theorem forall_ascii {P : Char → Prop} (h : ∀ n : Fin 128, P (Char.ofNat n)) (hc : isAscii c = true) : P c := by
  rw [isAscii, decide_eq_true_eq] at hc
  rw [← Char.ofNat_toNat c]
  exact h ⟨c.toNat, hc⟩

theorem isAscii_of_le {last : Char} (hlast : last.toNat < 128) (h : c.val ≤ last.val) : isAscii c = true := by
  rw [isAscii, decide_eq_true_eq]
  exact Nat.lt_of_le_of_lt (UInt32.le_iff_toNat_le.mp h) hlast

theorem isAscii_of_isUpper (h : c.isUpper = true) : isAscii c = true := by
  have hrange : c.val ≥ 'A'.val ∧ c.val ≤ 'Z'.val := of_decide_eq_true h
  exact isAscii_of_le (by decide) hrange.2

theorem isAscii_of_isLower (h : c.isLower = true) : isAscii c = true := by
  obtain ⟨-, hle⟩ := Bool.and_eq_true_iff.mp h
  exact isAscii_of_le (by decide) (of_decide_eq_true hle)

theorem isAscii_of_isDigit (h : c.isDigit = true) : isAscii c = true := by
  obtain ⟨-, hle⟩ := Bool.and_eq_true_iff.mp h
  exact isAscii_of_le (by decide) (of_decide_eq_true hle)

theorem isAscii_of_isAlphanum (h : c.isAlphanum = true) : isAscii c = true := by
  rcases Bool.or_eq_true_iff.mp h with h | h
  · rcases Bool.or_eq_true_iff.mp h with h | h
    · exact isAscii_of_isUpper h
    · exact isAscii_of_isLower h
  · exact isAscii_of_isDigit h

theorem capital_classes (h : c.isUpper = true) :
    isAlphabetic c = true ∧ isUppercase c = true ∧ c.toUpper = c ∧
      c.toLower.isLower = true ∧ c.toLower.isDigit = false ∧ c.toLower.toUpper = c := by
  refine forall_ascii (P := fun c => c.isUpper = true → isAlphabetic c = true ∧ isUppercase c = true ∧
    c.toUpper = c ∧ c.toLower.isLower = true ∧ c.toLower.isDigit = false ∧ c.toLower.toUpper = c) ?_
    (isAscii_of_isUpper h) h
  decide

theorem small_classes (h : c.isLower = true) :
    isAlphabetic c = true ∧ isLowercase c = true ∧ isUppercase c = false ∧ c.toLower = c := by
  refine forall_ascii (P := fun c => c.isLower = true → isAlphabetic c = true ∧ isLowercase c = true ∧
    isUppercase c = false ∧ c.toLower = c) ?_ (isAscii_of_isLower h) h
  decide

theorem digit_classes (h : c.isDigit = true) :
    isAlphabetic c = false ∧ isNumeric c = true ∧ isUppercase c = false ∧ c.toLower = c ∧ c.toUpper = c := by
  refine forall_ascii (P := fun c => c.isDigit = true → isAlphabetic c = false ∧ isNumeric c = true ∧
    isUppercase c = false ∧ c.toLower = c ∧ c.toUpper = c) ?_ (isAscii_of_isDigit h) h
  decide

end StoryCatalog.Text
