import Mathlib.Data.List.DropRight
import StoryCatalog.Proofs.Text.Layouts
import StoryCatalog.Proofs.Text.Slices

/-!
# Rows and lines

A text is a row without line feed, or such a row, a line feed and a further text. Every row but the last is a
line, without the carriage return that it may end in; the last row is a line unless it is empty. This is what
facts about lines are proved by.

Of the lines only those with ink on them matter to the shape of a text. Trimming a text trims the first and
the last of them, and to write lines below each other and read them again gives them back, but for a
carriage return at the end of each that now belongs to the line break.

* `rowInduction`, `lines_of_row`, `lines_append_row`: the rows of a text, and what its lines are.
* `inkedLines_trim`: the lines with ink of a trimmed text.
* `trimLast_inkedLines_intercalate`: the lines with ink of lines written below each other.
-/

namespace StoryCatalog.Text

variable {cs row rest l : List Char} {ls : List (List Char)}

/-! ## Rows -/

/-- **Induction on the rows of a text**: a last row, or a row before a further text. -/
theorem rowInduction {p : List Char → Prop} (last : ∀ row, '\n' ∉ row → p row)
    (next : ∀ row rest, '\n' ∉ row → p rest → p (row ++ '\n' :: rest)) (cs : List Char) : p cs := by
  by_cases h : '\n' ∈ cs
  · obtain ⟨row, rest, hcs, hrow⟩ := List.eq_append_cons_of_mem h
    exact hcs ▸ next row rest hrow (rowInduction last next rest)
  · exact last cs h
termination_by cs.length
decreasing_by
  rw [hcs, List.length_append, List.length_cons]
  omega

/-- A row without the carriage return that it ends in. -/
def chomp : List Char → List Char
  | [] => []
  | ['\r'] => []
  | c :: cs => c :: chomp cs

theorem chomp_cons {c : Char} (h : c = '\r' → row ≠ []) : chomp (c :: row) = c :: chomp row := by
  rw [chomp]
  rintro rfl rfl
  exact h rfl rfl

theorem chomp_sublist (row : List Char) : (chomp row).Sublist row := by
  fun_induction chomp row with
  | case1 => exact List.Sublist.refl _
  | case2 => exact List.nil_sublist _
  | case3 c cs _ ih => exact ih.cons_cons c

theorem ink_chomp (row : List Char) : ink (chomp row) = ink row := by
  fun_induction chomp row with
  | case1 => rfl
  | case2 => decide
  | case3 c cs _ ih =>
    change ink ([c] ++ chomp cs) = ink ([c] ++ cs)
    rw [ink_append, ink_append, ih]

theorem isBlankText_congr {a b : List Char} (h : ink a = ink b) : isBlankText a = isBlankText b := by
  rw [Bool.eq_iff_iff, ← ink_eq_nil_iff, ← ink_eq_nil_iff, h]

theorem chomp_eq_self_iff : chomp row = row ↔ row.getLast? ≠ some '\r' := by
  fun_induction chomp row with
  | case1 => simp
  | case2 => simp
  | case3 c cs h ih =>
    rw [List.cons_inj_right, ih]
    cases cs with
    | nil =>
      refine iff_of_true nofun fun hc => h ?_ rfl
      simpa using hc
    | cons d cs => rw [List.getLast?_cons_cons]

theorem chomp_concat (row : List Char) : chomp (row ++ ['\r']) = row := by
  induction row with
  | nil => rfl
  | cons c row ih => rw [List.cons_append, chomp_cons fun _ => by simp, ih]

/-! ## Lines -/

/-- A last row is a line if there is anything on it. -/
theorem lines_of_row (h : '\n' ∉ row) : lines row = if row = [] then [] else [row] := by
  induction row with
  | nil => rfl
  | cons c row ih =>
    rw [List.mem_cons, not_or] at h
    rw [lines, ih h.2, if_neg (List.cons_ne_nil c row)]
    · cases row with
      | nil => rfl
      | cons d row => rfl
    · exact fun hc => h.1 hc.symm
    · rintro cs rfl rfl
      exact h.2 List.mem_cons_self

/-- A row before a line feed is a line without the carriage return that it may end in. -/
theorem lines_append_row (h : '\n' ∉ row) (rest : List Char) :
    lines (row ++ '\n' :: rest) = chomp row :: lines rest := by
  induction row with
  | nil => rfl
  | cons c row ih =>
    rw [List.mem_cons, not_or] at h
    by_cases hc : c = '\r' ∧ row = []
    · obtain ⟨rfl, rfl⟩ := hc
      rfl
    · rw [not_and] at hc
      rw [List.cons_append, lines, ih h.2, chomp_cons hc]
      · exact fun hn => h.1 hn.symm
      · intro cs hr hrow
        cases row with
        | nil => exact hc hr rfl
        | cons d row =>
          rw [List.cons_append, List.cons.injEq] at hrow
          exact h.2 (hrow.1 ▸ List.mem_cons_self)

theorem newline_not_mem_of_mem_lines (h : l ∈ lines cs) : '\n' ∉ l := by
  induction cs using rowInduction with
  | last row hrow =>
    rw [lines_of_row hrow] at h
    split at h
    · cases h
    · rwa [List.mem_singleton.mp h]
  | next row rest hrow ih =>
    rw [lines_append_row hrow, List.mem_cons] at h
    rcases h with rfl | h
    · exact fun hc => hrow ((chomp_sublist row).mem hc)
    · exact ih h

/-! ## Lines with ink -/

/-- The lines of a list that hold more than blanks. -/
def inked (ls : List (List Char)) : List (List Char) :=
  ls.filter (!isBlankText ·)

/-- The lines of a text that hold more than blanks. -/
def inkedLines (cs : List Char) : List (List Char) :=
  inked (lines cs)

theorem mem_inked : l ∈ inked ls ↔ l ∈ ls ∧ isBlankText l = false := by
  rw [inked, List.mem_filter, Bool.not_eq_true']

@[simp] theorem inked_nil : inked [] = [] := rfl

theorem inked_cons (l : List Char) (ls : List (List Char)) : inked (l :: ls) = inked [l] ++ inked ls :=
  List.filter_append [l] ls

theorem inked_of_blank (h : isBlankText l = true) : inked [l] = [] :=
  List.filter_cons_of_neg (by simp [h])

theorem inked_of_not_blank (h : isBlankText l = false) : inked [l] = [l] :=
  List.filter_cons_of_pos (by simp [h])

theorem inked_singleton (l : List Char) : inked [l] = [] ∨ inked [l] = [l] := by
  cases h : isBlankText l with
  | true => exact .inl (inked_of_blank h)
  | false => exact .inr (inked_of_not_blank h)

/-- A change of lines that keeps their ink keeps which of them have any. -/
theorem inked_map {f : List Char → List Char} (h : ∀ l ∈ ls, ink (f l) = ink l) :
    inked (ls.map f) = (inked ls).map f := by
  rw [inked, List.filter_map, inked]
  refine congrArg (List.map f) (List.filter_congr fun l hl => ?_)
  rw [Function.comp_apply, isBlankText_congr (h l hl)]

theorem inked_eq_nil_iff : inked ls = [] ↔ ink ls.flatten = [] := by
  simp [inked, ink, List.filter_eq_nil_iff, isBlankText]

theorem inkedLines_eq_nil_iff : inkedLines cs = [] ↔ isBlankText cs = true := by
  rw [inkedLines, inked_eq_nil_iff, ink_flatten_lines, ink_eq_nil_iff]

theorem inkedLines_of_row (h : '\n' ∉ row) : inkedLines row = inked [row] := by
  rw [inkedLines, lines_of_row h]
  split
  · next hrow => rw [hrow, inked_of_blank rfl, inked_nil]
  · rfl

theorem inkedLines_append_row (h : '\n' ∉ row) (rest : List Char) :
    inkedLines (row ++ '\n' :: rest) = inked [chomp row] ++ inkedLines rest := by
  rw [inkedLines, lines_append_row h, inked_cons, inkedLines]

/-! ## Trimming -/

theorem isBlankText_eq_false_iff : isBlankText cs = false ↔ ink cs ≠ [] := by
  rw [Ne, ink_eq_nil_iff, Bool.not_eq_true]

/-- A text begins with a character that is no blank, or is empty. -/
def StartsWithInk (cs : List Char) : Prop :=
  ∀ c ∈ cs.head?, isBlank c = false

theorem dropWhile_eq_self_iff : cs.dropWhile isBlank = cs ↔ StartsWithInk cs := by
  cases cs with
  | nil => exact iff_of_true rfl nofun
  | cons c cs =>
    rw [List.dropWhile_eq_self_iff]
    simp [StartsWithInk]

theorem startsWithInk_dropWhile (cs : List Char) : StartsWithInk (cs.dropWhile isBlank) :=
  dropWhile_eq_self_iff.mp (List.dropWhile_idempotent isBlank cs)

theorem startsWithInk_of_isPrefix {a b : List Char} (h : StartsWithInk b) (hp : a <+: b) :
    StartsWithInk a := by
  cases a with
  | nil => exact nofun
  | cons c a =>
    obtain ⟨more, rfl⟩ := hp
    exact h

theorem trimEnd_isPrefix (cs : List Char) : trimEnd cs <+: cs :=
  List.rdropWhile_prefix isBlank cs

theorem startsWithInk_trim (cs : List Char) : StartsWithInk (trim cs) :=
  startsWithInk_of_isPrefix (startsWithInk_dropWhile cs) (trimEnd_isPrefix _)

theorem trimEnd_trimEnd (cs : List Char) : trimEnd (trimEnd cs) = trimEnd cs :=
  List.rdropWhile_idempotent isBlank cs

theorem trimEnd_eq_nil_iff : trimEnd cs = [] ↔ isBlankText cs = true := by
  rw [isBlankText, List.all_eq_true]
  exact List.rdropWhile_eq_nil_iff

theorem ink_trimEnd (cs : List Char) : ink (trimEnd cs) = ink cs := by
  rw [trimEnd, ink_reverse, ink_dropWhile, ink_reverse, List.reverse_reverse]

/-- What stands before a text with ink is not trimmed with its end. -/
theorem trimEnd_append {a b : List Char} (h : isBlankText b = false) : trimEnd (a ++ b) = a ++ trimEnd b := by
  have hb : ¬(b.reverse.dropWhile isBlank).isEmpty = true := by
    rw [List.isEmpty_iff, ← List.reverse_eq_nil_iff, ← trimEnd, trimEnd_eq_nil_iff, h]
    exact Bool.false_ne_true
  rw [trimEnd, List.reverse_append, List.dropWhile_append, if_neg hb, List.reverse_append,
    List.reverse_reverse, ← trimEnd]

/-- Both ends of a text can be trimmed in either order. -/
theorem trimEnd_dropWhile (cs : List Char) :
    trimEnd (cs.dropWhile isBlank) = (trimEnd cs).dropWhile isBlank := by
  have hall : ∀ c ∈ cs.takeWhile isBlank, isBlank c = true := List.all_eq_true.mp List.all_takeWhile
  cases hb : isBlankText cs with
  | true =>
    have hcs : cs.dropWhile isBlank = [] := List.dropWhile_eq_nil_iff.mpr (List.all_eq_true.mp hb)
    rw [hcs, trimEnd_eq_nil_iff.mpr hb]
    rfl
  | false =>
    have hd : isBlankText (cs.dropWhile isBlank) = false := by
      rwa [isBlankText_eq_false_iff, ink_dropWhile, ← isBlankText_eq_false_iff]
    calc trimEnd (cs.dropWhile isBlank)
        = (trimEnd (cs.dropWhile isBlank)).dropWhile isBlank :=
          (dropWhile_eq_self_iff.mpr (startsWithInk_trim cs)).symm
      _ = (cs.takeWhile isBlank ++ trimEnd (cs.dropWhile isBlank)).dropWhile isBlank :=
          (List.dropWhile_append_of_pos hall).symm
      _ = (trimEnd cs).dropWhile isBlank := by rw [← trimEnd_append hd, List.takeWhile_append_dropWhile]

/-- The lines, the first one without the blanks it begins with. -/
def trimFirst : List (List Char) → List (List Char)
  | [] => []
  | l :: ls => l.dropWhile isBlank :: ls

/-- The lines, the last one without the blanks it ends with. -/
def trimLast : List (List Char) → List (List Char)
  | [] => []
  | [l] => [trimEnd l]
  | l :: l' :: ls => l :: trimLast (l' :: ls)

theorem trimLast_append {ls' : List (List Char)} (h : ls' ≠ []) (ls : List (List Char)) :
    trimLast (ls ++ ls') = ls ++ trimLast ls' := by
  induction ls with
  | nil => rfl
  | cons l ls ih =>
    rw [List.cons_append, List.cons_append, ← ih]
    cases hc : ls ++ ls' with
    | nil => exact absurd (List.append_eq_nil_iff.mp hc).2 h
    | cons l' more => rfl

theorem trimLast_trimFirst (ls : List (List Char)) : trimLast (trimFirst ls) = trimFirst (trimLast ls) := by
  match ls with
  | [] => rfl
  | [l] => exact congrArg ([·]) (trimEnd_dropWhile l)
  | l :: l' :: ls => rfl

theorem chomp_dropWhile (h : isBlankText row = false) :
    chomp (row.dropWhile isBlank) = (chomp row).dropWhile isBlank := by
  induction row with
  | nil => rfl
  | cons c row ih =>
    cases hc : isBlank c with
    | true =>
      have hrow : isBlankText row = false := by
        rwa [isBlankText, List.all_cons, hc, Bool.true_and, ← isBlankText] at h
      have hne : row ≠ [] := by
        rintro rfl
        cases hrow
      rw [chomp_cons fun _ => hne, List.dropWhile_cons_of_pos hc, List.dropWhile_cons_of_pos hc, ih hrow]
    | false =>
      have hne : c ≠ '\r' := by
        rintro rfl
        cases hc
      rw [chomp_cons fun hr => absurd hr hne, List.dropWhile_cons_of_neg (by simp [hc]),
        List.dropWhile_cons_of_neg (by simp [hc]), chomp_cons fun hr => absurd hr hne]

theorem inked_dropWhile (l : List Char) : inked [l.dropWhile isBlank] = trimFirst (inked [l]) := by
  have h : inked [l.dropWhile isBlank] = (inked [l]).map (·.dropWhile isBlank) :=
    inked_map (List.forall_mem_singleton.mpr (ink_dropWhile l))
  rcases inked_singleton l with hl | hl
  all_goals rw [h, hl]; rfl

theorem inked_trimEnd (l : List Char) : inked [trimEnd l] = trimLast (inked [l]) := by
  have h : inked [trimEnd l] = (inked [l]).map trimEnd :=
    inked_map (List.forall_mem_singleton.mpr (ink_trimEnd l))
  rcases inked_singleton l with hl | hl
  all_goals rw [h, hl]; rfl

/-- The carriage return that a row ends in is trimmed with its end. -/
theorem trimEnd_chomp (row : List Char) : trimEnd (chomp row) = trimEnd row := by
  by_cases h : row.getLast? = some '\r'
  · obtain ⟨front, rfl⟩ := List.getLast?_eq_some_iff.mp h
    rw [chomp_concat, trimEnd_append_blanks (List.forall_mem_singleton.mpr (by decide))]
  · rw [chomp_eq_self_iff.mpr h]

theorem trimLast_inked_chomp (row : List Char) : trimLast (inked [chomp row]) = trimLast (inked [row]) := by
  rw [← inked_trimEnd, trimEnd_chomp, inked_trimEnd]

/-- Trimming the beginning of a text trims its first line with ink. -/
theorem inkedLines_dropWhile (cs : List Char) :
    inkedLines (cs.dropWhile isBlank) = trimFirst (inkedLines cs) := by
  induction cs using rowInduction with
  | last row hrow =>
    have hrow' : '\n' ∉ row.dropWhile isBlank := fun h => hrow ((List.dropWhile_sublist _).mem h)
    rw [inkedLines_of_row hrow, inkedLines_of_row hrow', inked_dropWhile]
  | next row rest hrow ih =>
    have hrow' : '\n' ∉ row.dropWhile isBlank := fun h => hrow ((List.dropWhile_sublist _).mem h)
    have hchomp : isBlankText (chomp row) = isBlankText row := isBlankText_congr (ink_chomp row)
    rw [inkedLines_append_row hrow]
    cases hb : isBlankText row with
    | true =>
      rw [List.dropWhile_append_of_pos (List.all_eq_true.mp hb), List.dropWhile_cons_of_pos (by decide), ih,
        inked_of_blank (hchomp.trans hb), List.nil_append]
    | false =>
      have hne : ¬(row.dropWhile isBlank).isEmpty = true := by
        rw [List.isEmpty_iff, List.dropWhile_eq_nil_iff, ← List.all_eq_true, ← isBlankText, hb]
        exact Bool.false_ne_true
      rw [List.dropWhile_append, if_neg hne, inkedLines_append_row hrow', chomp_dropWhile hb, inked_dropWhile,
        inked_of_not_blank (hchomp.trans hb)]
      rfl

/-- Trimming the end of a text trims its last line with ink. -/
theorem inkedLines_trimEnd (cs : List Char) : inkedLines (trimEnd cs) = trimLast (inkedLines cs) := by
  have hlast : ∀ row, '\n' ∉ row → inkedLines (trimEnd row) = trimLast (inked [row]) := by
    intro row hrow
    rw [inkedLines_of_row fun h => hrow ((trimEnd_isPrefix row).sublist.mem h), inked_trimEnd]
  induction cs using rowInduction with
  | last row hrow => rw [hlast row hrow, inkedLines_of_row hrow]
  | next row rest hrow ih =>
    rw [inkedLines_append_row hrow]
    cases hb : isBlankText rest with
    | true =>
      have hall : ∀ c ∈ '\n' :: rest, isBlank c = true :=
        List.forall_mem_cons.mpr ⟨by decide, List.all_eq_true.mp hb⟩
      rw [trimEnd_append_blanks hall, hlast row hrow, inkedLines_eq_nil_iff.mpr hb, List.append_nil,
        trimLast_inked_chomp]
    | false =>
      have hne : inkedLines rest ≠ [] := by
        rw [Ne, inkedLines_eq_nil_iff, hb]
        exact Bool.false_ne_true
      rw [← List.singleton_append, ← List.append_assoc, trimEnd_append hb, List.append_assoc,
        List.singleton_append, inkedLines_append_row hrow, ih, trimLast_append hne]

/-- **Trimming a text trims its first and its last line with ink.** -/
theorem inkedLines_trim (cs : List Char) : inkedLines (trim cs) = trimFirst (trimLast (inkedLines cs)) := by
  rw [trim, inkedLines_trimEnd, inkedLines_dropWhile, trimLast_trimFirst]

/-! ## Lines written below each other -/

/-- **What is read off lines that were written below each other**: their carriage returns at the end belong
to the line breaks now. -/
theorem trimLast_inkedLines_intercalate (h : ∀ l ∈ ls, '\n' ∉ l) :
    trimLast (inkedLines (List.intercalate ['\n'] ls)) = trimLast ((inked ls).map chomp) := by
  rw [← inked_map fun l _ => ink_chomp l]
  induction ls with
  | nil => rfl
  | cons l ls ih =>
    obtain ⟨hl, hls⟩ := List.forall_mem_cons.mp h
    cases ls with
    | nil => rw [List.intercalate_singleton, inkedLines_of_row hl, List.map_singleton, trimLast_inked_chomp]
    | cons l' ls =>
      rw [List.intercalate_cons_cons, List.append_assoc, List.singleton_append, inkedLines_append_row hl,
        List.map_cons, inked_cons (chomp l) (List.map chomp (l' :: ls))]
      have hnil : inkedLines (List.intercalate ['\n'] (l' :: ls)) = [] ↔ inked ((l' :: ls).map chomp) = [] := by
        rw [inked_map fun l _ => ink_chomp l, List.map_eq_nil_iff, inkedLines_eq_nil_iff, ← ink_eq_nil_iff,
          ink_intercalate, inked_eq_nil_iff]
      by_cases hne : inkedLines (List.intercalate ['\n'] (l' :: ls)) = []
      · rw [hne, hnil.mp hne]
      · rw [trimLast_append hne, trimLast_append (mt hnil.mpr hne), ih hls]

end StoryCatalog.Text
