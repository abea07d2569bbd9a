import Mathlib.Data.List.TakeWhile
import StoryCatalog.Text.Layout

/-!
# What is left of a text in shape

To bring a text into shape, by removing the shared indentation or by joining the lines, takes away blanks
and nothing else. So what is left is empty exactly if the text holds nothing but blanks.

* `filter_dedent`, `filter_oneLine`: the characters that are no blanks stay, in order.
* `dedent_eq_nil_iff`, `oneLine_eq_nil_iff`: nothing is left exactly of a blank text.
-/

namespace StoryCatalog.Text

/-- The characters of a text that are no blanks. -/
def ink (cs : List Char) : List Char :=
  cs.filter (!isBlank ·)

@[simp] theorem ink_append (a b : List Char) : ink (a ++ b) = ink a ++ ink b :=
  List.filter_append ..

theorem ink_eq_nil_iff {cs : List Char} : ink cs = [] ↔ isBlankText cs = true := by
  simp [ink, isBlankText, List.filter_eq_nil_iff]

theorem ink_cons_of_isBlank {c : Char} (h : isBlank c = true) (cs : List Char) :
    ink (c :: cs) = ink cs := by
  simp [ink, h]

theorem ink_reverse (cs : List Char) : ink cs.reverse = (ink cs).reverse :=
  List.filter_reverse

/-! ## Trimming -/

theorem ink_dropWhile (cs : List Char) : ink (cs.dropWhile isBlank) = ink cs := by
  induction cs with
  | nil => rfl
  | cons c cs ih =>
    by_cases h : isBlank c = true
    · rw [List.dropWhile_cons_of_pos h, ih, ink_cons_of_isBlank h]
    · rw [List.dropWhile_cons_of_neg h]

theorem ink_trim (cs : List Char) : ink (trim cs) = ink cs := by
  rw [trim, trimEnd, ink_reverse, ink_dropWhile, ink_reverse, List.reverse_reverse, ink_dropWhile]

/-- **Trimming leaves nothing exactly of a blank text.** -/
theorem trim_eq_nil_iff {cs : List Char} : trim cs = [] ↔ isBlankText cs = true := by
  constructor
  · intro h
    rw [← ink_eq_nil_iff, ← ink_trim, h]
    rfl
  · intro h
    have hd : cs.dropWhile isBlank = [] := List.dropWhile_eq_nil_iff.mpr (List.all_eq_true.mp h)
    rw [trim, hd]
    rfl

/-- A trimmed text in which everything is blank is empty. -/
theorem trim_eq_nil_iff_ink {cs : List Char} : trim cs = [] ↔ ink (trim cs) = [] := by
  rw [ink_trim, ink_eq_nil_iff, trim_eq_nil_iff]

/-! ## Lines -/

theorem isBlank_of_isLineBreak {c : Char} (h : isLineBreak c = true) : isBlank c = true := by
  simp only [isLineBreak, Bool.or_eq_true, beq_iff_eq] at h
  rcases h with rfl | rfl <;> decide

theorem isBlank_of_isIndent {c : Char} (h : isIndent c = true) : isBlank c = true := by
  simp only [isIndent, Bool.or_eq_true, beq_iff_eq] at h
  rcases h with rfl | rfl <;> decide

/-- The lines of a text lack only blanks of it. -/
theorem ink_flatten_lines (cs : List Char) : ink (lines cs).flatten = ink cs := by
  fun_induction lines cs with
  | case1 => rfl
  | case2 cs ih => rw [List.flatten_cons, List.nil_append, ih, ink_cons_of_isBlank (by decide)]
  | case3 cs ih =>
    rw [List.flatten_cons, List.nil_append, ih, ink_cons_of_isBlank (by decide),
      ink_cons_of_isBlank (by decide)]
  | case4 c cs _ _ h ih =>
    rw [h] at ih
    change ink ([c] ++ []) = ink ([c] ++ cs)
    rw [ink_append, ink_append, ← ih]
    rfl
  | case5 c cs _ _ l ls h ih =>
    rw [h] at ih
    change ink ([c] ++ (l :: ls).flatten) = ink ([c] ++ cs)
    rw [ink_append, ink_append, ih]

theorem ink_intercalate (ls : List (List Char)) :
    ink (List.intercalate ['\n'] ls) = ink ls.flatten := by
  induction ls with
  | nil => rfl
  | cons l ls ih =>
    cases ls with
    | nil => simp [List.intercalate]
    | cons l' ls =>
      have hcons : List.intercalate ['\n'] (l :: l' :: ls) =
          l ++ '\n' :: List.intercalate ['\n'] (l' :: ls) := by
        simp [List.intercalate]
      rw [hcons, ink_append, ink_cons_of_isBlank (by decide), ih, ← ink_append]
      rfl

/-! ## Indentation -/

/-- Cutting off no more than the indentation of a line takes away blanks only. -/
theorem ink_drop_of_le_indent {line : List Char} {n : Nat} (h : n ≤ indent line) :
    ink (line.drop n) = ink line := by
  induction line generalizing n with
  | nil => rw [List.drop_nil]
  | cons c line ih =>
    cases n with
    | zero => rfl
    | succ n =>
      unfold indent at h
      by_cases hc : isIndent c = true
      · rw [List.takeWhile_cons_of_pos hc, List.length_cons] at h
        rw [List.drop_succ_cons, ih (Nat.le_of_succ_le_succ h),
          ink_cons_of_isBlank (isBlank_of_isIndent hc)]
      · rw [List.takeWhile_cons_of_neg hc] at h
        exact absurd h (Nat.not_succ_le_zero n)

theorem ink_cutIndent {line : List Char} {n : Nat}
    (h : isBlankText line = false → n ≤ indent line) : ink (cutIndent n line) = ink line := by
  unfold cutIndent
  cases hb : isBlankText line with
  | true => exact (ink_eq_nil_iff.mpr hb).symm
  | false => exact ink_drop_of_le_indent (h hb)

/-- **Removing the shared indentation takes away blanks only.** -/
theorem filter_dedent (cs : List Char) :
    (dedent cs).filter (!isBlank ·) = cs.filter (!isBlank ·) := by
  have cut : ∀ ls : List (List Char), (∀ l ∈ ls, l ∈ lines cs) →
      ink (ls.map (cutIndent (sharedIndent (lines cs)))).flatten = ink ls.flatten := by
    intro ls hls
    induction ls with
    | nil => rfl
    | cons l ls ih =>
      obtain ⟨hl, hls⟩ := List.forall_mem_cons.mp hls
      rw [List.map_cons, List.flatten_cons, List.flatten_cons, ink_append, ink_append, ih hls,
        ink_cutIndent (sharedIndent_le hl)]
  change ink (dedent cs) = ink cs
  rw [dedent, ink_trim, ink_intercalate, cut _ fun _ hl => hl, ink_flatten_lines]

/-- **Joining the lines takes away blanks only.** -/
theorem filter_oneLine (cs : List Char) :
    (oneLine cs).filter (!isBlank ·) = cs.filter (!isBlank ·) := by
  change ink (oneLine cs) = ink cs
  rw [oneLine, ink_trim, ink, ink, List.filter_filter]
  refine List.filter_congr fun c _ => ?_
  cases hb : isLineBreak c with
  | true => simp [isBlank_of_isLineBreak hb]
  | false => simp

/-- **Removing the shared indentation leaves nothing exactly of a blank text.** -/
theorem dedent_eq_nil_iff {cs : List Char} : dedent cs = [] ↔ isBlankText cs = true := by
  have h : ink (dedent cs) = ink cs := filter_dedent cs
  rw [← ink_eq_nil_iff, ← h]
  exact trim_eq_nil_iff_ink

/-- **Joining the lines leaves nothing exactly of a blank text.** -/
theorem oneLine_eq_nil_iff {cs : List Char} : oneLine cs = [] ↔ isBlankText cs = true := by
  have h : ink (oneLine cs) = ink cs := filter_oneLine cs
  rw [← ink_eq_nil_iff, ← h]
  exact trim_eq_nil_iff_ink

end StoryCatalog.Text
