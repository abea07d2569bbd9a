import StoryCatalog.Name.Words

/-!
# Where a name is cut

A name is read character by character, with the word that is being spelled on one side and the next character
on the other. What comes out can be told without reading: two letters or numerals are in the same word exactly
if nothing else stands between them and no two neighbours on the way are cut apart, where a cut depends on the
two neighbours and the character after them only.

* `turnsAt_eq_true_iff`: the three kinds of cuts.
* `exists_wordsFrom_cons`, `exists_wordsFrom_append`: what has been spelled after one character, and after a
  text.
* `wordsFrom_of_unbroken`, `wordsFrom_of_broken`: a text that goes on with the word being spelled, and one that
  ends it.
* `words_outcome`: which characters the words hold, and which of them are in one word.
-/

namespace StoryCatalog.Name

open Text

variable {x y a b : Char} {next : Option Char} {before between after current ys : List Char}

/-! ## Cuts -/

/-- A name is cut between the neighbouring characters `a` and `b`, where `next` is the character after `b`. -/
inductive Cut : Char → Char → Option Char → Prop where
  /-- A small letter stands before a capital. -/
  | beforeCapital {a b : Char} {next : Option Char} (ha : isLowercase a = true) (hb : isUppercase b = true) :
    Cut a b next
  /-- A letter stands before or after something that is no letter. -/
  | besideLetter {a b : Char} {next : Option Char} (h : ¬(isAlphabetic a = true ↔ isAlphabetic b = true)) :
    Cut a b next
  /-- The last capital of several goes with the small letter after it. -/
  | afterAcronym {a b n : Char} (ha : isUppercase a = true) (hb : isUppercase b = true)
    (hn : isLowercase n = true) : Cut a b (some n)

theorem turnsAt_eq_true_iff : turnsAt a b next = true ↔ Cut a b next := by
  simp only [turnsAt, Bool.or_eq_true, Bool.and_eq_true, bne_iff_ne, Option.any_eq_true]
  constructor
  · rintro ((⟨ha, hb⟩ | h) | ⟨⟨ha, hb⟩, n, rfl, hn⟩)
    · exact .beforeCapital ha hb
    · exact .besideLetter fun hab => h (Bool.eq_iff_iff.mpr hab)
    · exact .afterAcronym ha hb hn
  · rintro (⟨ha, hb⟩ | h | ⟨ha, hb, hn⟩)
    · exact .inl (.inl ⟨ha, hb⟩)
    · exact .inl (.inr fun hab => h (Bool.eq_iff_iff.mp hab))
    · exact .inr ⟨⟨ha, hb⟩, _, rfl, hn⟩

instance (a b : Char) (next : Option Char) : Decidable (Cut a b next) :=
  decidable_of_iff _ turnsAt_eq_true_iff

/-- From `x` over the characters `ys`, which are followed by `after`, nothing but letters and numerals is met
and no two neighbours are cut apart. -/
def Unbroken (x : Char) (ys after : List Char) : Prop :=
  (∀ y ∈ ys, isAlphanumeric y = true) ∧
    ∀ front a b rest, x :: ys = front ++ a :: b :: rest → ¬Cut a b (rest ++ after).head?

theorem unbroken_nil : Unbroken x [] after := by
  refine ⟨nofun, fun front a b rest h => ?_⟩
  have hlen := congrArg List.length h
  simp only [List.length_append, List.length_cons, List.length_nil] at hlen
  omega

theorem unbroken_cons :
    Unbroken x (y :: ys) after ↔
      isAlphanumeric y = true ∧ ¬Cut x y (ys ++ after).head? ∧ Unbroken y ys after := by
  constructor
  · rintro ⟨hall, hcut⟩
    obtain ⟨hy, hys⟩ := List.forall_mem_cons.mp hall
    exact ⟨hy, hcut [] x y ys rfl, hys, fun front a b rest h => hcut (x :: front) a b rest (congrArg _ h)⟩
  · rintro ⟨hy, hxy, hys, hcut⟩
    refine ⟨List.forall_mem_cons.mpr ⟨hy, hys⟩, fun front a b rest h => ?_⟩
    cases front with
    | nil =>
      simp only [List.nil_append, List.cons.injEq] at h
      obtain ⟨rfl, rfl, rfl⟩ := h
      exact hxy
    | cons c front => exact hcut front a b rest (List.cons.inj h).2

/-! ## Reading on -/

/-- What has been spelled after one more character: finished words, and the word that is being spelled. -/
theorem exists_wordsFrom_cons (current : List Char) (c : Char) (cs : List Char) :
    ∃ done current', wordsFrom current (c :: cs) = done ++ wordsFrom current' cs ∧
      done.flatten ++ current'.reverse = current.reverse ++ [c].filter isAlphanumeric ∧
      (isAlphanumeric c = true → ∃ w, current' = c :: w) := by
  rw [wordsFrom]
  by_cases hc : isAlphanumeric c = true
  · rw [hc, Bool.not_true, if_neg Bool.false_ne_true, List.filter_cons_of_pos hc, List.filter_nil]
    split
    · exact ⟨finished current, [c], rfl, by rw [finished_flatten]; rfl, fun _ => ⟨[], rfl⟩⟩
    · exact ⟨[], c :: current, rfl, by rw [List.reverse_cons]; rfl, fun _ => ⟨current, rfl⟩⟩
  · have hf : isAlphanumeric c = false := by rwa [Bool.not_eq_true] at hc
    rw [hf, Bool.not_false, if_pos rfl, List.filter_cons_of_neg hc, List.filter_nil]
    exact ⟨finished current, [], rfl, by rw [finished_flatten]; rfl, fun hf => absurd hf Bool.false_ne_true⟩

/-- What has been spelled when a letter or numeral is reached. -/
theorem exists_wordsFrom_append (ha : isAlphanumeric a = true) (before current rest : List Char) :
    ∃ done w, wordsFrom current (before ++ a :: rest) = done ++ wordsFrom (a :: w) rest ∧
      done.flatten ++ w.reverse = current.reverse ++ before.filter isAlphanumeric := by
  induction before generalizing current with
  | nil =>
    obtain ⟨done, current', hw, hf, ha'⟩ := exists_wordsFrom_cons current a rest
    obtain ⟨w, rfl⟩ := ha' ha
    refine ⟨done, w, hw, ?_⟩
    rw [List.filter_cons_of_pos ha, List.reverse_cons, ← List.append_assoc] at hf
    rw [List.append_cancel_right hf, List.filter_nil, List.append_nil]
  | cons c before ih =>
    obtain ⟨done, current', hw, hf, -⟩ := exists_wordsFrom_cons current c (before ++ a :: rest)
    obtain ⟨done', w, hw', hf'⟩ := ih current'
    refine ⟨done ++ done', w, by rw [List.cons_append, hw, hw', List.append_assoc], ?_⟩
    rw [List.flatten_append, List.append_assoc, hf', ← List.append_assoc, hf, List.append_assoc,
      ← List.filter_append, List.singleton_append]

/-- A word that is being spelled is the beginning of the next word. -/
theorem exists_wordsFrom_eq (x : Char) (current cs : List Char) :
    ∃ w later, wordsFrom (x :: current) cs = ((x :: current).reverse ++ w) :: later := by
  induction cs generalizing x current with
  | nil => exact ⟨[], [], by rw [List.append_nil]; rfl⟩
  | cons c cs ih =>
    rw [wordsFrom]
    split
    · exact ⟨[], wordsFrom [] cs, by rw [List.append_nil]; rfl⟩
    · split
      · exact ⟨[], wordsFrom [c] cs, by rw [List.append_nil]; rfl⟩
      · obtain ⟨w, later, h⟩ := ih c (x :: current)
        exact ⟨c :: w, later, by rw [h, List.reverse_cons, List.append_assoc]; rfl⟩

theorem wordsFrom_cons_of_not_cut (hy : isAlphanumeric y = true) (h : ¬Cut x y ys.head?) :
    wordsFrom (x :: current) (y :: ys) = wordsFrom (y :: x :: current) ys := by
  rw [← turnsAt_eq_true_iff] at h
  rw [wordsFrom, hy, Bool.not_true, if_neg Bool.false_ne_true, List.head?_cons, Option.any_some, if_neg h]

/-- A letter or numeral that is cut off, and anything else, ends the word. -/
theorem wordsFrom_cons_of_cut (current : List Char) (h : isAlphanumeric y = true → Cut x y ys.head?) :
    ∃ later, wordsFrom (x :: current) (y :: ys) = (x :: current).reverse :: later := by
  rw [wordsFrom]
  by_cases hy : isAlphanumeric y = true
  · have hxy := turnsAt_eq_true_iff.mpr (h hy)
    rw [hy, Bool.not_true, if_neg Bool.false_ne_true, List.head?_cons, Option.any_some, if_pos hxy]
    exact ⟨wordsFrom [y] ys, rfl⟩
  · rw [Bool.not_eq_true] at hy
    rw [hy, Bool.not_false, if_pos rfl]
    exact ⟨wordsFrom [] ys, rfl⟩

/-- **An unbroken text goes on with the word.** -/
theorem wordsFrom_of_unbroken (current : List Char) (h : Unbroken x ys after) :
    wordsFrom (x :: current) (ys ++ after) = wordsFrom (ys.reverse ++ x :: current) after := by
  induction ys generalizing x current with
  | nil => rfl
  | cons y ys ih =>
    obtain ⟨hy, hxy, hys⟩ := unbroken_cons.mp h
    rw [List.cons_append, wordsFrom_cons_of_not_cut hy hxy, ih (x :: current) hys, List.reverse_cons,
      List.append_assoc]
    rfl

/-- **A broken text ends the word** before its last character is spelled. -/
theorem wordsFrom_of_broken (current : List Char) (hb : isAlphanumeric b = true)
    (h : ¬Unbroken x (between ++ [b]) after) :
    ∃ w later, wordsFrom (x :: current) (between ++ b :: after) = ((x :: current).reverse ++ w) :: later ∧
      w.length ≤ between.countP isAlphanumeric := by
  induction between generalizing x current with
  | nil =>
    have hcut : Cut x b after.head? := by
      rw [List.nil_append, unbroken_cons] at h
      exact Decidable.not_not.mp fun hc => h ⟨hb, hc, unbroken_nil⟩
    obtain ⟨later, hw⟩ := wordsFrom_cons_of_cut current fun _ => hcut
    exact ⟨[], later, by rw [List.append_nil, List.nil_append, hw], Nat.zero_le _⟩
  | cons c between ih =>
    rw [List.cons_append, unbroken_cons, List.append_assoc, List.singleton_append] at h
    by_cases hc : isAlphanumeric c = true ∧ ¬Cut x c (between ++ b :: after).head?
    · obtain ⟨w, later, hw, hlen⟩ := ih (x :: current) fun hu => h ⟨hc.1, hc.2, hu⟩
      refine ⟨c :: w, later, ?_, ?_⟩
      · rw [List.cons_append, wordsFrom_cons_of_not_cut hc.1 hc.2, hw, List.reverse_cons, List.append_assoc]
        rfl
      · rw [List.length_cons, List.countP_cons_of_pos hc.1]
        omega
    · rw [not_and, Decidable.not_not] at hc
      obtain ⟨later, hw⟩ := wordsFrom_cons_of_cut current hc
      exact ⟨[], later, by rw [List.append_nil, List.cons_append, hw], Nat.zero_le _⟩

/-! ## Words and their characters -/

/-- The number of the word that holds the `i`-th of the characters of a list of words. -/
def wordAt : List (List Char) → Nat → Nat
  | [], _ => 0
  | w :: ws, i => if i < w.length then 0 else wordAt ws (i - w.length) + 1

theorem wordAt_append (earlier ws : List (List Char)) (i : Nat) :
    wordAt (earlier ++ ws) (earlier.flatten.length + i) = earlier.length + wordAt ws i := by
  induction earlier with
  | nil => simp
  | cons w earlier ih =>
    have hi : w.length + earlier.flatten.length + i - w.length = earlier.flatten.length + i := by omega
    rw [List.cons_append, wordAt, List.flatten_cons, List.length_append, if_neg (by omega), hi, ih,
      List.length_cons]
    omega

/-- Counted from the beginning of a word, the characters within its length are in it. -/
theorem wordAt_eq_length_iff {earlier later : List (List Char)} {w : List Char} {i : Nat} :
    wordAt (earlier ++ w :: later) (earlier.flatten.length + i) = earlier.length ↔ i < w.length := by
  rw [wordAt_append, wordAt]
  split <;> omega

/-- **Which characters are in one word**: those between which the name is unbroken. -/
theorem wordAt_eq_iff (ha : isAlphanumeric a = true) (hb : isAlphanumeric b = true) :
    wordAt (words (before ++ a :: (between ++ b :: after))) (before.countP isAlphanumeric) =
        wordAt (words (before ++ a :: (between ++ b :: after)))
          ((before ++ a :: between).countP isAlphanumeric) ↔
      Unbroken a (between ++ [b]) after := by
  obtain ⟨done, w, hw, hf⟩ := exists_wordsFrom_append ha before [] (between ++ b :: after)
  have hi : before.countP isAlphanumeric = done.flatten.length + w.length := by
    have hlen := congrArg List.length hf
    rw [List.length_append, List.length_reverse, List.reverse_nil, List.nil_append] at hlen
    rw [List.countP_eq_length_filter, hlen]
  have hj : (before ++ a :: between).countP isAlphanumeric =
      done.flatten.length + (w.length + 1 + between.countP isAlphanumeric) := by
    rw [List.countP_append, List.countP_cons_of_pos ha, hi]
    omega
  rw [words, hw, hi, hj]
  constructor
  · intro heq
    refine Classical.byContradiction fun hbroken => ?_
    obtain ⟨w', later, hword, hle⟩ := wordsFrom_of_broken w hb hbroken
    rw [hword] at heq
    have hfirst : wordAt (done ++ ((a :: w).reverse ++ w') :: later) (done.flatten.length + w.length) =
        done.length := by
      rw [wordAt_eq_length_iff, List.length_append, List.length_reverse, List.length_cons]
      omega
    have hlast := wordAt_eq_length_iff.mp (heq.symm.trans hfirst)
    rw [List.length_append, List.length_reverse, List.length_cons] at hlast
    omega
  · intro h
    have hall : between.countP isAlphanumeric = between.length :=
      List.countP_eq_length.mpr fun c hc => h.1 c (List.mem_append_left [b] hc)
    obtain ⟨w', later, hword⟩ := exists_wordsFrom_eq b (between.reverse ++ a :: w) after
    have hread := wordsFrom_of_unbroken w h
    rw [List.append_assoc, List.singleton_append, List.reverse_append, List.reverse_singleton,
      List.singleton_append, List.cons_append, hword] at hread
    rw [hread, wordAt_eq_length_iff.mpr, wordAt_eq_length_iff.mpr]
    · simp only [hall, List.length_append, List.length_reverse, List.length_cons]
      omega
    · simp only [List.length_append, List.length_reverse, List.length_cons]
      omega

/-- **What the words of a name are.** None is empty, and together they hold the letters and numerals of the
name in order; two of these are in one word exactly if the name is unbroken between them. -/
theorem words_outcome (cs : List Char) :
    (∀ w ∈ words cs, w ≠ []) ∧ (words cs).flatten = cs.filter isAlphanumeric ∧
      ∀ before a between b after, cs = before ++ a :: (between ++ b :: after) →
        isAlphanumeric a = true → isAlphanumeric b = true →
        (wordAt (words cs) (before.countP isAlphanumeric) =
            wordAt (words cs) ((before ++ a :: between).countP isAlphanumeric) ↔
          Unbroken a (between ++ [b]) after) := by
  refine ⟨fun w => ne_nil_of_mem_words, words_flatten cs, ?_⟩
  rintro before a between b after rfl ha hb
  exact wordAt_eq_iff ha hb

/-- A name with a letter beyond ASCII, a digit and an acronym before a word. -/
def acronymName : List Char :=
  ['é', 't', 'é', '2', 'H', 'T', 'M', 'L', 'P', 'a', 'g', 'e', '!']

/-- The acronym is one word, and the word after it another one. -/
theorem words_acronymName :
    isAlphanumeric 'H' = true ∧ isAlphanumeric 'L' = true ∧ isAlphanumeric 'P' = true ∧
      Unbroken 'H' ['T', 'M', 'L'] ['P', 'a', 'g', 'e', '!'] ∧
      ¬Unbroken 'H' ['T', 'M', 'L', 'P'] ['a', 'g', 'e', '!'] := by
  have hspelled := (words_outcome acronymName).2.2 ['é', 't', 'é', '2'] 'H'
  refine ⟨by decide, by decide, by decide, ?_, ?_⟩
  · refine (hspelled ['T', 'M'] 'L' ['P', 'a', 'g', 'e', '!'] rfl (by decide) (by decide)).mp ?_
    decide +kernel
  · refine mt (hspelled ['T', 'M', 'L'] 'P' ['a', 'g', 'e', '!'] rfl (by decide) (by decide)).mpr ?_
    decide +kernel

end StoryCatalog.Name
