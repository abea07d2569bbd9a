import StoryCatalog.Proofs.Text.Boundaries
import StoryCatalog.Proofs.Text.Indentation

/-!
# Bringing a text into shape

Both ways to bring a text into shape, to remove the shared indentation and to join the lines, take characters
away and add none, and what they take away is blank. What is left is trimmed at both ends. Removing the
indentation keeps the number of lines with ink; joining the lines leaves no line break and nothing to join.

The indentation is counted in bytes: what stands before the ink of a line is ASCII, so bytes are characters
there and every line has a boundary where it is cut.

* `endsWithInk_trim`, `trim_trim`: the end of a trimmed text, and trimming twice.
* `dedent_sublist`, `oneLine_sublist`: characters are taken away and none added.
* `length_inked_splitOn`: the lines with ink, however they are separated.
* `slice?_sharedByteIndent`: the cut of a line is a slice of its bytes.
* `normalization_outcome`: what is left of a text in either shape.
-/

namespace StoryCatalog.Text

variable {cs l : List Char} {ls ls' : List (List Char)}

/-! ## Trimmed texts -/

/-- A text ends with a character that is no blank, or is empty. -/
def EndsWithInk (cs : List Char) : Prop :=
  ∀ c ∈ cs.getLast?, isBlank c = false

theorem endsWithInk_trim (cs : List Char) : EndsWithInk (trim cs) := by
  intro c hc
  have hne : trim cs ≠ [] := by
    intro hnil
    rw [hnil] at hc
    cases hc
  rw [List.getLast?_eq_some_getLast hne, Option.mem_some_iff] at hc
  rw [← hc, ← Bool.not_eq_true]
  exact List.rdropWhile_last_not isBlank _ hne

theorem trim_sublist (cs : List Char) : (trim cs).Sublist cs :=
  (trimEnd_isPrefix _).sublist.trans (List.dropWhile_sublist _)

theorem trim_trim (cs : List Char) : trim (trim cs) = trim cs := by
  have h : (trim cs).dropWhile isBlank = trim cs := dropWhile_eq_self_iff.mpr (startsWithInk_trim cs)
  rw [trim, h, trim, trimEnd_trimEnd]

/-! ## Characters taken away -/

theorem Thinner.intercalate (h : Thinner ls ls') (sep : List Char) :
    (List.intercalate sep ls).Sublist (List.intercalate sep ls') := by
  induction h with
  | nil => exact List.Sublist.refl _
  | cons hl h ih =>
    cases h with
    | nil => rwa [List.intercalate_singleton, List.intercalate_singleton]
    | cons =>
      rw [List.intercalate_cons_cons, List.intercalate_cons_cons]
      exact (hl.append (List.Sublist.refl sep)).append ih

/-- Lines written below each other again are the text, but for carriage returns and a last line break. -/
theorem intercalate_lines_sublist (cs : List Char) : (List.intercalate ['\n'] (lines cs)).Sublist cs := by
  induction cs using rowInduction with
  | last row hrow =>
    rw [lines_of_row hrow]
    split
    · exact List.nil_sublist row
    · rw [List.intercalate_singleton]
  | next row rest hrow ih =>
    rw [lines_append_row hrow]
    cases hrest : lines rest with
    | nil =>
      rw [List.intercalate_singleton]
      exact (chomp_sublist row).trans (List.sublist_append_left _ _)
    | cons l ls =>
      rw [hrest] at ih
      rw [List.intercalate_cons_cons, List.append_assoc]
      exact (chomp_sublist row).append (ih.cons_cons '\n')

theorem cutIndent_sublist (n : Nat) (l : List Char) : (cutIndent n l).Sublist l := by
  unfold cutIndent
  split
  · exact List.nil_sublist l
  · exact List.drop_sublist n l

theorem dedent_sublist (cs : List Char) : (dedent cs).Sublist cs := by
  have hcut : Thinner ((lines cs).map (cutIndent (sharedIndent (lines cs)))) (lines cs) :=
    List.forall₂_map_left_iff.mpr (List.forall₂_same.mpr fun l _ => cutIndent_sublist _ l)
  exact (trim_sublist _).trans ((hcut.intercalate ['\n']).trans (intercalate_lines_sublist cs))

theorem oneLine_sublist (cs : List Char) : (oneLine cs).Sublist cs :=
  (trim_sublist _).trans List.filter_sublist

/-- A text is tidied: blanks are taken away, and none are left at either end. -/
structure Tidies (cs tidy : List Char) : Prop where
  /-- No character is added. -/
  sublist : tidy.Sublist cs
  /-- The characters that are no blanks stay, in order. -/
  ink : ink tidy = ink cs
  starts : StartsWithInk tidy
  ends : EndsWithInk tidy

theorem tidies_dedent (cs : List Char) : Tidies cs (dedent cs) :=
  ⟨dedent_sublist cs, filter_dedent cs, startsWithInk_trim _, endsWithInk_trim _⟩

theorem tidies_oneLine (cs : List Char) : Tidies cs (oneLine cs) :=
  ⟨oneLine_sublist cs, filter_oneLine cs, startsWithInk_trim _, endsWithInk_trim _⟩

/-! ## Lines -/

/-- As many lines have ink, whether line feeds are taken for line ends or for separators. -/
theorem length_inked_splitOn (cs : List Char) :
    (inked (cs.splitOn '\n')).length = (inkedLines cs).length := by
  induction cs using rowInduction with
  | last row hrow => rw [List.splitOn_eq_singleton hrow, inkedLines_of_row hrow]
  | next row rest hrow ih =>
    have hchomp : inked [chomp row] = (inked [row]).map chomp :=
      inked_map (List.forall_mem_singleton.mpr (ink_chomp row))
    rw [List.splitOn_append_cons_self_of_not_mem hrow, inked_cons, inkedLines_append_row hrow, hchomp,
      List.length_append, List.length_append, List.length_map, ih]

theorem length_trimFirst (ls : List (List Char)) : (trimFirst ls).length = ls.length := by
  cases ls <;> rfl

theorem length_trimLast (ls : List (List Char)) : (trimLast ls).length = ls.length := by
  rcases ls.eq_nil_or_concat' with rfl | ⟨front, l, rfl⟩
  · rfl
  · rw [trimLast_concat, List.length_append, List.length_append]
    rfl

theorem length_inkedLines_dedent (cs : List Char) : (inkedLines (dedent cs)).length = (inkedLines cs).length := by
  rw [inkedLines_dedent, length_trimFirst, length_trimLast, List.length_map, cutLines, List.length_map]

theorem isLineBreak_of_mem_oneLine {c : Char} (h : c ∈ oneLine cs) : isLineBreak c = false := by
  have hc := (List.mem_filter.mp ((trim_sublist _).mem h)).2
  simpa using hc

theorem oneLine_oneLine (cs : List Char) : oneLine (oneLine cs) = oneLine cs := by
  have hkept : (oneLine cs).filter (!isLineBreak ·) = oneLine cs :=
    List.filter_eq_self.mpr fun c hc => by rw [isLineBreak_of_mem_oneLine hc]; rfl
  rw [oneLine, hkept, oneLine, trim_trim]

/-! ## Indentation in bytes -/

/-- How many bytes of a line are taken by the spaces and tabs that it begins with. -/
def byteIndent (l : List Char) : Nat :=
  measure .utf8 l - measure .utf8 (l.dropWhile isIndent)

/-- The least number of bytes of indentation of a non-blank line, zero if there is none. -/
def sharedByteIndent (ls : List (List Char)) : Nat :=
  (((ls.filter (!isBlankText ·)).map byteIndent).min?).getD 0

theorem isAscii_of_isIndent {c : Char} (h : isIndent c = true) : isAscii c = true := by
  simp only [isIndent, Bool.or_eq_true, beq_iff_eq] at h
  rcases h with rfl | rfl <;> decide

theorem measure_of_isIndent {p : List Char} (h : ∀ c ∈ p, isIndent c = true) : measure .utf8 p = p.length :=
  measure_of_isAsciiText (List.all_eq_true.mpr fun c hc => isAscii_of_isIndent (h c hc)) .utf8

theorem byteIndent_eq (l : List Char) : byteIndent l = indent l := by
  have hp : measure .utf8 (l.takeWhile isIndent) = indent l :=
    measure_of_isIndent fun _ hc => List.mem_takeWhile_imp hc
  have hl : measure .utf8 l = measure .utf8 (l.takeWhile isIndent) + measure .utf8 (l.dropWhile isIndent) := by
    rw [← measure_append, List.takeWhile_append_dropWhile]
  rw [byteIndent]
  omega

theorem sharedByteIndent_eq (ls : List (List Char)) : sharedByteIndent ls = sharedIndent ls := by
  rw [sharedByteIndent, sharedIndent, funext byteIndent_eq]

/-- **The cut of a line is a slice of its bytes**: the number of bytes is in range and on a boundary. -/
theorem slice?_sharedByteIndent (hl : l ∈ ls) (hb : isBlankText l = false) :
    slice? .utf8 (sharedByteIndent ls) (measure .utf8 l) l = some (cutIndent (sharedIndent ls) l) := by
  have hle : sharedIndent ls ≤ indent l := sharedIndent_le hl hb
  rw [sharedByteIndent_eq, cutIndent, hb, if_neg Bool.false_ne_true, slice?_eq_some_iff]
  refine ⟨l.take (sharedIndent ls), [], by simp, ?_, by simp⟩
  rw [measure_of_isIndent (isIndent_of_mem_take hle),
    List.length_take_of_le (Nat.le_trans hle (indent_le_length l))]

/-- **What is left of a text in either shape.** Removing the shared indentation and joining the lines take
away blanks only and leave none at the ends; the one keeps the number of lines with ink, the other leaves no
line break and nothing to join. The bytes of shared indentation are in range of every line that is cut, and
the cut falls on a boundary. -/
theorem normalization_outcome (cs : List Char) :
    Tidies cs (dedent cs) ∧ Tidies cs (oneLine cs) ∧
      (inked ((dedent cs).splitOn '\n')).length = (inked (cs.splitOn '\n')).length ∧
      (∀ c ∈ oneLine cs, c ≠ '\n' ∧ c ≠ '\r') ∧ oneLine (oneLine cs) = oneLine cs ∧
      ∀ l ∈ lines cs, isBlankText l = false →
        slice? .utf8 (sharedByteIndent (lines cs)) (measure .utf8 l) l =
          some (cutIndent (sharedIndent (lines cs)) l) := by
  refine ⟨tidies_dedent cs, tidies_oneLine cs, ?_, fun c hc => ?_, oneLine_oneLine cs,
    fun l hl hb => slice?_sharedByteIndent hl hb⟩
  · rw [length_inked_splitOn, length_inked_splitOn, length_inkedLines_dedent]
  · have hb := isLineBreak_of_mem_oneLine hc
    rw [isLineBreak, Bool.or_eq_false_iff, beq_eq_false_iff_ne, beq_eq_false_iff_ne] at hb
    exact hb

/-- Tabs and spaces before characters of several bytes, and line ends of three kinds. -/
def mixedLines : List Char :=
  ['\t', 'é', ' ', '\r', '\n', '\u2003', '\n', ' ', '\t', '😀', '\r', 'b']

theorem normalization_mixedLines :
    [' ', '\t', '😀', '\r', 'b'] ∈ lines mixedLines ∧ isBlankText [' ', '\t', '😀', '\r', 'b'] = false ∧
      slice? .utf8 (sharedByteIndent (lines mixedLines)) (measure .utf8 [' ', '\t', '😀', '\r', 'b'])
          [' ', '\t', '😀', '\r', 'b'] = some ['\t', '😀', '\r', 'b'] := by
  have hmem : [' ', '\t', '😀', '\r', 'b'] ∈ lines mixedLines := by decide
  have hink : isBlankText [' ', '\t', '😀', '\r', 'b'] = false := by decide
  exact ⟨hmem, hink, (normalization_outcome mixedLines).2.2.2.2.2 _ hmem hink⟩

end StoryCatalog.Text
