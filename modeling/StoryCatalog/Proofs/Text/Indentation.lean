import Mathlib.Data.List.Forall2
import Mathlib.Data.List.TakeDrop
import StoryCatalog.Proofs.Text.Lines

/-!
# When relative indentation is kept

To remove the shared indentation is to cut the same number of characters off every line with ink and to trim
what is left. The relative indentation of the lines is kept exactly if three things come together: what is cut
off is the same in all lines, the first line is indented no further, and no line before the last ends in a
carriage return, which the line break after it would swallow.

* `inkedLines_dedent`: the lines with ink after the shared indentation has been removed.
* `Thinner.antisymm`, `Thinner.trimLast`: lists of lines of which one has fewer characters, line by line.
* `keepsIndentation_iff`: the texts whose relative indentation is kept.
* `indentation_lost`: three texts whose relative indentation is lost.
-/

namespace StoryCatalog.Text

variable {cs l : List Char} {ls ls' : List (List Char)}

/-! ## The lines that are left -/

theorem indent_le_length (l : List Char) : indent l ≤ l.length :=
  (List.takeWhile_prefix isIndent).length_le

theorem le_indent_of_mem (h : l ∈ inkedLines cs) : sharedIndent (lines cs) ≤ indent l :=
  sharedIndent_le (mem_inked.mp h).1 (mem_inked.mp h).2

theorem isBlankText_drop {n : Nat} (h : n ≤ indent l) : isBlankText (l.drop n) = isBlankText l :=
  isBlankText_congr (ink_drop_of_le_indent h)

/-- The lines with ink of a text, each after as many characters as the shared indentation has. -/
def cutLines (cs : List Char) : List (List Char) :=
  (inkedLines cs).map (·.drop (sharedIndent (lines cs)))

theorem isBlankText_of_mem_cutLines : ∀ l ∈ cutLines cs, isBlankText l = false :=
  List.forall_mem_map.mpr fun _ hl => (isBlankText_drop (le_indent_of_mem hl)).trans (mem_inked.mp hl).2

/-- **The lines with ink after the shared indentation has been removed.** -/
theorem inkedLines_dedent (cs : List Char) :
    inkedLines (dedent cs) = trimFirst (trimLast ((cutLines cs).map chomp)) := by
  have hcut : ∀ l ∈ lines cs, ink (cutIndent (sharedIndent (lines cs)) l) = ink l :=
    fun l hl => ink_cutIndent (sharedIndent_le hl)
  have hdrop : (inkedLines cs).map (cutIndent (sharedIndent (lines cs))) = cutLines cs := by
    refine List.map_congr_left fun l hl => ?_
    rw [cutIndent, (mem_inked.mp hl).2, if_neg Bool.false_ne_true]
  have hrows : ∀ l ∈ (lines cs).map (cutIndent (sharedIndent (lines cs))), '\n' ∉ l := by
    rw [List.forall_mem_map]
    intro l hl hn
    unfold cutIndent at hn
    split at hn
    · cases hn
    · exact newline_not_mem_of_mem_lines hl (List.mem_of_mem_drop hn)
  rw [dedent, inkedLines_trim, trimLast_inkedLines_intercalate hrows, inked_map hcut, ← inkedLines, hdrop]

/-! ## Thinner lines -/

/-- As many lines, each with some of the characters of its counterpart. -/
abbrev Thinner (ls ls' : List (List Char)) : Prop :=
  List.Forall₂ List.Sublist ls ls'

theorem Thinner.antisymm (h : Thinner ls ls') (h' : Thinner ls' ls) : ls = ls' := by
  induction h with
  | nil => rfl
  | cons hl _ ih =>
    obtain _ | ⟨hl', h'⟩ := h'
    rw [hl.antisymm hl', ih h']

theorem Thinner.trans {ls'' : List (List Char)} (h : Thinner ls ls') (h' : Thinner ls' ls'') :
    Thinner ls ls'' := by
  induction h generalizing ls'' with
  | nil => exact h'
  | cons hl _ ih =>
    obtain _ | ⟨hl', h'⟩ := h'
    exact .cons (hl.trans hl') (ih h')

theorem Thinner.refl (ls : List (List Char)) : Thinner ls ls :=
  List.forall₂_same.mpr fun l _ => List.Sublist.refl l

/-- What is left of fewer characters is less. -/
theorem dropWhile_sublist_dropWhile {a b : List Char} (h : a.Sublist b) :
    (a.dropWhile isBlank).Sublist (b.dropWhile isBlank) := by
  induction h with
  | slnil => exact List.Sublist.refl _
  | @cons a b c h ih =>
    cases hc : isBlank c with
    | true => rwa [List.dropWhile_cons_of_pos hc]
    | false =>
      rw [List.dropWhile_cons_of_neg (by simp [hc])]
      exact (List.dropWhile_sublist _).trans (h.cons c)
  | @cons_cons a b c h ih =>
    cases hc : isBlank c with
    | true => rwa [List.dropWhile_cons_of_pos hc, List.dropWhile_cons_of_pos hc]
    | false =>
      rw [List.dropWhile_cons_of_neg (by simp [hc]), List.dropWhile_cons_of_neg (by simp [hc])]
      exact h.cons_cons c

theorem trimEnd_sublist_trimEnd {a b : List Char} (h : a.Sublist b) : (trimEnd a).Sublist (trimEnd b) :=
  List.reverse_sublist.mpr (dropWhile_sublist_dropWhile (List.reverse_sublist.mpr h))

theorem Thinner.trimLast (h : Thinner ls ls') : Thinner (trimLast ls) (trimLast ls') := by
  induction h with
  | nil => exact .nil
  | cons hl h ih =>
    cases h with
    | nil => exact .cons (trimEnd_sublist_trimEnd hl) .nil
    | cons => exact .cons hl ih

theorem trimFirst_thinner (ls : List (List Char)) : Thinner (trimFirst ls) ls := by
  cases ls with
  | nil => exact .nil
  | cons l ls => exact .cons (List.dropWhile_sublist _) (Thinner.refl ls)

theorem map_chomp_thinner (ls : List (List Char)) : Thinner (ls.map chomp) ls :=
  List.forall₂_map_left_iff.mpr (List.forall₂_same.mpr fun l _ => chomp_sublist l)

theorem map_thinner_map {f g : List Char → List Char} (h : ∀ l ∈ ls, (f l).Sublist (g l)) :
    Thinner (ls.map f) (ls.map g) := by
  rw [Thinner, List.forall₂_map_left_iff, List.forall₂_map_right_iff, List.forall₂_same]
  exact h

theorem trimLast_concat (ls : List (List Char)) (l : List Char) : trimLast (ls ++ [l]) = ls ++ [trimEnd l] :=
  trimLast_append (List.cons_ne_nil l []) ls

theorem trimLast_trimLast (ls : List (List Char)) : trimLast (trimLast ls) = trimLast ls := by
  rcases ls.eq_nil_or_concat' with rfl | ⟨front, l, rfl⟩
  · rfl
  · rw [trimLast_concat, trimLast_concat, trimEnd_trimEnd]

/-! ## What each step changes -/

/-- Nothing but the last line may lose a carriage return. -/
theorem trimLast_map_chomp_eq_iff :
    trimLast (ls.map chomp) = trimLast ls ↔ ∀ l ∈ ls.dropLast, l.getLast? ≠ some '\r' := by
  rcases ls.eq_nil_or_concat' with rfl | ⟨front, l, rfl⟩
  · exact iff_of_true rfl nofun
  · have hmap : front.map chomp = front ↔ ∀ l ∈ front, chomp l = l := by
      rw [← List.map_inj_left (g := fun l => l), List.map_id']
    rw [List.map_append, List.map_singleton, trimLast_concat, trimLast_concat, trimEnd_chomp,
      List.append_left_inj, List.dropLast_concat, hmap]
    exact forall₂_congr fun l _ => chomp_eq_self_iff

theorem startsWithInk_trimEnd_iff (h : isBlankText l = false) :
    StartsWithInk (trimEnd l) ↔ StartsWithInk l := by
  obtain ⟨rest, hrest⟩ := trimEnd_isPrefix l
  cases ht : trimEnd l with
  | nil =>
    rw [trimEnd_eq_nil_iff, h] at ht
    cases ht
  | cons c front =>
    rw [ht] at hrest
    rw [← hrest]
    rfl

/-- The first line of a text with ink is left alone exactly if it starts with ink. -/
theorem trimFirst_trimLast_eq_iff (h : ∀ l ∈ ls, isBlankText l = false) :
    trimFirst (trimLast ls) = trimLast ls ↔ ∀ l ∈ ls.head?, StartsWithInk l := by
  match ls with
  | [] => exact iff_of_true rfl nofun
  | [l] =>
    have hl : isBlankText l = false := h l List.mem_cons_self
    rw [trimLast, trimFirst, List.cons.injEq, dropWhile_eq_self_iff, startsWithInk_trimEnd_iff hl]
    simp
  | l :: l' :: ls =>
    rw [trimLast, trimFirst, List.cons.injEq, dropWhile_eq_self_iff]
    simp

/-- Lines with ink show how much indentation was cut off them. -/
theorem eq_of_trimLast_map_drop {m n : Nat} (hne : ls ≠ []) (hb : ∀ l ∈ ls, isBlankText l = false)
    (hn : ∀ l ∈ ls, n ≤ indent l) (hm : m ≤ n)
    (h : trimLast (ls.map (·.drop n)) = trimLast (ls.map (·.drop m))) : m = n := by
  rcases ls.eq_nil_or_concat' with rfl | ⟨front, l, rfl⟩
  · exact absurd rfl hne
  · have hl : l ∈ front ++ [l] := List.mem_append_right front List.mem_cons_self
    have hlast : trimEnd (l.drop n) = trimEnd (l.drop m) := by
      rw [List.map_append, List.map_append, List.map_singleton, List.map_singleton, trimLast_concat,
        trimLast_concat] at h
      exact List.singleton_inj.mp (List.append_inj h (by simp)).2
    -- What is between the two cuts stands before the ink of the line, so it is not trimmed.
    have hmn : m + (n - m) = n := by omega
    have hlen := congrArg List.length hlast
    rw [← List.drop_take_append_drop l m (n - m), hmn,
      trimEnd_append ((isBlankText_drop (hn l hl)).trans (hb l hl)), List.length_append, List.length_take,
      List.length_drop] at hlen
    have := hn l hl
    have := indent_le_length l
    omega

/-! ## Relative indentation -/

/-- The relative indentation of a text is kept: one piece of indentation begins all its lines with ink, and
these lines without it are the lines with ink once the shared indentation is removed, the blanks at the end of
the last one aside. -/
def KeepsIndentation (cs : List Char) : Prop :=
  ∃ p : List Char, (∀ c ∈ p, isIndent c = true) ∧ (∀ l ∈ inkedLines cs, p <+: l) ∧
    trimLast (inkedLines (dedent cs)) = trimLast ((inkedLines cs).map (·.drop p.length))

/-- The lines with ink of a text are aligned. -/
structure Aligned (cs : List Char) : Prop where
  /-- What is cut off the lines is the same for all of them. -/
  alike : ∀ l ∈ inkedLines cs, ∀ l' ∈ inkedLines cs,
    l.take (sharedIndent (lines cs)) = l'.take (sharedIndent (lines cs))
  /-- The first line is indented no further. -/
  first : ∀ l ∈ (cutLines cs).head?, StartsWithInk l
  /-- No line before the last ends in a carriage return. -/
  ends : ∀ l ∈ (cutLines cs).dropLast, l.getLast? ≠ some '\r'

theorem isIndent_of_mem_take {n : Nat} (h : n ≤ indent l) : ∀ c ∈ l.take n, isIndent c = true := by
  intro c hc
  obtain ⟨rest, hrest⟩ := List.takeWhile_prefix isIndent (l := l)
  rw [← hrest, List.take_append_of_le_length h] at hc
  exact List.mem_takeWhile_imp (List.mem_of_mem_take hc)

theorem length_le_indent {p : List Char} (hp : ∀ c ∈ p, isIndent c = true) (h : p <+: l) :
    p.length ≤ indent l := by
  obtain ⟨rest, rfl⟩ := h
  rw [indent, List.takeWhile_append_of_pos hp, List.length_append]
  exact Nat.le_add_right _ _

/-- The shared indentation is the indentation of some line. -/
theorem le_sharedIndent {k : Nat} (hne : inkedLines cs ≠ []) (h : ∀ l ∈ inkedLines cs, k ≤ indent l) :
    k ≤ sharedIndent (lines cs) := by
  unfold sharedIndent
  rw [← inked, ← inkedLines]
  cases hm : ((inkedLines cs).map indent).min? with
  | none =>
    rw [List.min?_eq_none_iff, List.map_eq_nil_iff] at hm
    exact absurd hm hne
  | some m =>
    obtain ⟨l, hl, rfl⟩ := List.mem_map.mp (List.min?_mem hm)
    exact h l hl

theorem trimLast_inkedLines_dedent (cs : List Char) :
    trimLast (inkedLines (dedent cs)) = inkedLines (dedent cs) := by
  rw [inkedLines_dedent, trimLast_trimFirst, trimLast_trimLast]

theorem Aligned.keepsIndentation (h : Aligned cs) : KeepsIndentation cs := by
  have hcut : inkedLines (dedent cs) = trimLast (cutLines cs) := by
    rw [inkedLines_dedent, trimLast_map_chomp_eq_iff.mpr h.ends,
      (trimFirst_trimLast_eq_iff isBlankText_of_mem_cutLines).mpr h.first]
  cases hls : inkedLines cs with
  | nil =>
    refine ⟨[], nofun, hls ▸ nofun, ?_⟩
    rw [hcut, cutLines, hls]
    rfl
  | cons l ls =>
    have hl : l ∈ inkedLines cs := hls ▸ List.mem_cons_self
    have hle : sharedIndent (lines cs) ≤ indent l := le_indent_of_mem hl
    refine ⟨l.take (sharedIndent (lines cs)), isIndent_of_mem_take hle, fun l' hl' => ?_, ?_⟩
    · rw [h.alike l hl l' hl']
      exact List.take_prefix _ _
    · rw [hcut, trimLast_trimLast, List.length_take_of_le (Nat.le_trans hle (indent_le_length l)), ← cutLines]

theorem KeepsIndentation.aligned (h : KeepsIndentation cs) : Aligned cs := by
  obtain ⟨p, hp, hpre, heq⟩ := h
  by_cases hne : inkedLines cs = []
  · constructor <;> simp [cutLines, hne]
  have hle : p.length ≤ sharedIndent (lines cs) :=
    le_sharedIndent hne fun l hl => length_le_indent hp (hpre l hl)
  -- The lines lose characters in three steps and none in all, so they lose none in any of them.
  have hfirst : Thinner (inkedLines (dedent cs)) (trimLast ((cutLines cs).map chomp)) := by
    rw [inkedLines_dedent]
    exact trimFirst_thinner _
  have hends : Thinner (trimLast ((cutLines cs).map chomp)) (trimLast (cutLines cs)) :=
    (map_chomp_thinner (cutLines cs)).trimLast
  have hcut : Thinner (trimLast (cutLines cs)) (inkedLines (dedent cs)) := by
    rw [← trimLast_inkedLines_dedent, heq]
    exact (map_thinner_map fun l _ => List.drop_sublist_drop_left l hle).trimLast
  have heq₁ : trimLast ((cutLines cs).map chomp) = inkedLines (dedent cs) :=
    (hends.trans hcut).antisymm hfirst
  have heq₂ : trimLast (cutLines cs) = inkedLines (dedent cs) := hcut.antisymm (hfirst.trans hends)
  have hlen : p.length = sharedIndent (lines cs) := by
    refine eq_of_trimLast_map_drop hne (fun l hl => (mem_inked.mp hl).2) (fun l hl => le_indent_of_mem hl)
      hle ?_
    rw [← heq, trimLast_inkedLines_dedent, ← heq₂, cutLines]
  refine ⟨fun l hl l' hl' => ?_, ?_, ?_⟩
  · rw [← hlen, ← List.prefix_iff_eq_take.mp (hpre l hl), ← List.prefix_iff_eq_take.mp (hpre l' hl')]
  · refine (trimFirst_trimLast_eq_iff isBlankText_of_mem_cutLines).mp ?_
    rw [heq₂, ← heq₁, ← inkedLines_dedent, heq₁]
  · exact trimLast_map_chomp_eq_iff.mp (heq₁.trans heq₂.symm)

/-- **Relative indentation is kept exactly by the texts whose lines are aligned.** -/
theorem keepsIndentation_iff (cs : List Char) : KeepsIndentation cs ↔ Aligned cs :=
  ⟨KeepsIndentation.aligned, Aligned.keepsIndentation⟩

/-- Relative indentation is lost where tabs and spaces are cut off alike, where the first line is indented
further than the second, and where a line ends in a carriage return of its own. -/
theorem indentation_lost :
    ¬KeepsIndentation ['\t', 'a', '\n', ' ', ' ', 'b'] ∧
      ¬KeepsIndentation [' ', ' ', ' ', ' ', 'a', '\n', ' ', ' ', 'b'] ∧
      ¬KeepsIndentation ['a', '\r', '\r', '\n', 'b'] := by
  refine ⟨fun h => ?_, fun h => ?_, fun h => ?_⟩
  · exact absurd (h.aligned.alike ['\t', 'a'] (by decide) [' ', ' ', 'b'] (by decide)) (by decide)
  · exact absurd (h.aligned.first [' ', ' ', 'a'] (by decide) ' ' (by decide)) (by decide)
  · exact h.aligned.ends ['a', '\r'] (by decide) (by decide)

end StoryCatalog.Text
