import Mathlib.Data.List.Chain
import StoryCatalog.Name.Export
import StoryCatalog.Proofs.Name.Cuts
import StoryCatalog.Proofs.Text.Ascii

/-!
# Names that are spelled from words

Words can be joined with spaces or without. Joined with spaces they are read back if each of them is unbroken;
without, if besides each is cut off from the next one. A capitalized word and a number are unbroken, and a
capitalized word is cut off from whatever precedes it, so names of such words can be told in either form: the
display name with spaces and the export name without give each other.

* `words_append`: a whole word is read up to its end.
* `words_intercalate`, `words_flatten_of_cutOff`: words joined with and without spaces are read back.
* `exportName_displayName_of_canonical`: display names and export names of capitalized words and numbers.
-/

namespace StoryCatalog.Name

open Text

variable {a b c x : Char} {next : Option Char} {after cs u v w xs : List Char} {ws : List (List Char)}

/-! ## Words that are joined -/

/-- A text that is one word, whatever stands after it. -/
def Whole : List Char → Prop
  | [] => False
  | x :: xs => isAlphanumeric x = true ∧ ∀ after, Unbroken x xs after

/-- Whatever stands after `v`, the last character of `u` and the first of `v` are cut apart. -/
def CutOff (u v : List Char) : Prop :=
  ∃ a ∈ u.getLast?, ∃ b ∈ v.head?, ∀ next, Cut a b next

/-- A word goes on with nothing: what follows it is no letter or numeral, or is cut off. -/
def EndsBefore (w after : List Char) : Prop :=
  ∀ a ∈ w.getLast?, ∀ b rest, after = b :: rest → isAlphanumeric b = true → Cut a b rest.head?

theorem words_cons_of_alphanumeric (hb : isAlphanumeric b = true) (cs : List Char) :
    words (b :: cs) = wordsFrom [b] cs := by
  rw [words, wordsFrom, hb, Bool.not_true, if_neg Bool.false_ne_true]
  rfl

theorem words_cons_of_not_alphanumeric (hb : isAlphanumeric b = false) (cs : List Char) :
    words (b :: cs) = words cs := by
  rw [words, wordsFrom, hb, Bool.not_false, if_pos rfl]
  rfl

/-- A word that ends is finished, and reading starts again. -/
theorem wordsFrom_of_ends (current : List Char)
    (h : ∀ b rest, after = b :: rest → isAlphanumeric b = true → Cut a b rest.head?) :
    wordsFrom (a :: current) after = (a :: current).reverse :: words after := by
  cases after with
  | nil => rfl
  | cons b rest =>
    rw [wordsFrom]
    cases hb : isAlphanumeric b with
    | true =>
      have hab := turnsAt_eq_true_iff.mpr (h b rest rfl hb)
      rw [Bool.not_true, if_neg Bool.false_ne_true, List.head?_cons, Option.any_some, if_pos hab,
        words_cons_of_alphanumeric hb]
      rfl
    | false =>
      rw [Bool.not_false, if_pos rfl, words_cons_of_not_alphanumeric hb]
      rfl

/-- **A whole word is read up to its end.** -/
theorem words_append (hw : Whole w) (hend : EndsBefore w after) : words (w ++ after) = w :: words after := by
  cases w with
  | nil => exact hw.elim
  | cons x xs =>
    obtain ⟨hx, hxs⟩ := hw
    rw [List.cons_append, words_cons_of_alphanumeric hx, wordsFrom_of_unbroken [] (hxs after), ← List.reverse_cons]
    cases hrev : (x :: xs).reverse with
    | nil => simp at hrev
    | cons a current =>
      have hlast : (x :: xs).getLast? = some a := by rw [← List.head?_reverse, hrev, List.head?_cons]
      rw [wordsFrom_of_ends current (hend a hlast), ← hrev, List.reverse_reverse]

theorem endsBefore_nil : EndsBefore w [] :=
  nofun

theorem endsBefore_space (after : List Char) : EndsBefore w (' ' :: after) := by
  rintro a - b rest h hb
  obtain ⟨rfl, rfl⟩ := List.cons.inj h
  exact absurd hb (by decide)

theorem CutOff.endsBefore (h : CutOff u v) (after : List Char) : EndsBefore u (v ++ after) := by
  obtain ⟨a, ha, b, hb, hcut⟩ := h
  obtain ⟨vs, rfl⟩ := List.head?_eq_some_iff.mp hb
  rintro a' ha' b' rest hv -
  obtain rfl : a = a' := Option.mem_unique ha ha'
  obtain ⟨rfl, rfl⟩ := List.cons.inj hv
  exact hcut _

/-- **Words joined with spaces are read back.** -/
theorem words_intercalate (hws : ∀ w ∈ ws, Whole w) : words (List.intercalate [' '] ws) = ws := by
  induction ws with
  | nil => rfl
  | cons w ws ih =>
    have hw := hws w List.mem_cons_self
    cases ws with
    | nil =>
      have hread := words_append hw endsBefore_nil
      rw [List.append_nil] at hread
      rw [List.intercalate_singleton, hread]
      rfl
    | cons v vs =>
      rw [List.intercalate_cons_cons, List.append_assoc, List.singleton_append,
        words_append hw (endsBefore_space _), words_cons_of_not_alphanumeric (by decide),
        ih fun w h => hws w (List.mem_cons_of_mem _ h)]

/-- **Words joined without spaces are read back** if each is cut off from the next one. -/
theorem words_flatten_of_cutOff (hws : ∀ w ∈ ws, Whole w) (h : ws.IsChain CutOff) : words ws.flatten = ws := by
  induction ws with
  | nil => rfl
  | cons w ws ih =>
    have hw := hws w List.mem_cons_self
    have hread := ih (fun w h => hws w (List.mem_cons_of_mem _ h)) h.tail
    have hend : EndsBefore w ws.flatten := by
      cases ws with
      | nil => exact endsBefore_nil
      | cons v vs => exact (List.isChain_cons_cons.mp h).1.endsBefore _
    rw [List.flatten_cons, words_append hw hend, hread]

theorem not_cut (hcap : isUppercase b = false) (halpha : isAlphabetic b = isAlphabetic a) :
    ¬Cut a b next := by
  intro hcut
  cases hcut with
  | beforeCapital _ hb => exact Bool.false_ne_true (hcap.symm.trans hb)
  | besideLetter h => exact h (by rw [halpha])
  | afterAcronym _ hb _ => exact Bool.false_ne_true (hcap.symm.trans hb)

/-- Letters throughout, or numerals throughout, with no capital but the first are unbroken. -/
theorem whole_cons (hx : isAlphanumeric x = true)
    (hxs : ∀ y ∈ xs, isAlphanumeric y = true ∧ isUppercase y = false ∧ isAlphabetic y = isAlphabetic x) :
    Whole (x :: xs) := by
  refine ⟨hx, fun after => ?_⟩
  clear hx
  induction xs generalizing x with
  | nil => exact unbroken_nil
  | cons y ys ih =>
    obtain ⟨⟨hy, hcap, halpha⟩, hys⟩ := List.forall_mem_cons.mp hxs
    refine unbroken_cons.mpr ⟨hy, not_cut hcap halpha, ih fun z hz => ?_⟩
    rw [halpha]
    exact hys z hz

/-! ## Capitalized words and numbers -/

/-- A capital and at least one small letter after it, all of them ASCII. -/
def IsCapitalized : List Char → Prop
  | c :: d :: ds => c.isUpper = true ∧ ∀ x ∈ d :: ds, x.isLower = true
  | _ => False

/-- ASCII digits, and at least one. -/
def IsNumber (w : List Char) : Prop :=
  w ≠ [] ∧ ∀ c ∈ w, c.isDigit = true

instance (w : List Char) : Decidable (IsCapitalized w) :=
  match w with
  | c :: d :: ds =>
    decidable_of_iff (c.isUpper = true ∧ (d :: ds).all Char.isLower = true) (and_congr_right' List.all_eq_true)
  | [] => inferInstanceAs (Decidable False)
  | [_] => inferInstanceAs (Decidable False)

instance (w : List Char) : Decidable (IsNumber w) :=
  decidable_of_iff (w ≠ [] ∧ w.all Char.isDigit = true) (and_congr_right' List.all_eq_true)

/-- The words of a name of which each form gives the other. -/
structure CanonicalWords (w : List Char) (ws : List (List Char)) : Prop where
  first : IsCapitalized w
  later : ∀ v ∈ ws, IsCapitalized v ∨ IsNumber v
  /-- No two numbers stand side by side. -/
  apart : (w :: ws).IsChain fun u v => ¬(IsNumber u ∧ IsNumber v)

/-- The parts of a capitalized word. -/
theorem exists_of_isCapitalized (h : IsCapitalized w) :
    ∃ c cs, w = c :: cs ∧ c.isUpper = true ∧ cs ≠ [] ∧ ∀ x ∈ cs, x.isLower = true := by
  match w, h with
  | c :: d :: ds, ⟨hc, hds⟩ => exact ⟨c, d :: ds, rfl, hc, List.cons_ne_nil d ds, hds⟩

/-! ## Their cuts -/

/-- Small letters are unbroken after any letter. -/
theorem whole_of_small (hx : isAlphabetic x = true) (hxs : ∀ y ∈ xs, y.isLower = true) : Whole (x :: xs) := by
  refine whole_cons (by rw [isAlphanumeric, hx, Bool.true_or]) fun y hy => ?_
  obtain ⟨halpha, -, hcap, -⟩ := small_classes (hxs y hy)
  exact ⟨by rw [isAlphanumeric, halpha, Bool.true_or], hcap, halpha.trans hx.symm⟩

theorem whole_of_isCapitalized (h : IsCapitalized w) : Whole w := by
  obtain ⟨c, cs, rfl, hc, -, hcs⟩ := exists_of_isCapitalized h
  exact whole_of_small (capital_classes hc).1 hcs

theorem whole_of_isNumber (h : IsNumber w) : Whole w := by
  obtain ⟨x, xs, rfl⟩ := List.exists_cons_of_ne_nil h.1
  obtain ⟨hx, hxs⟩ := List.forall_mem_cons.mp h.2
  obtain ⟨halpha, hnum, -⟩ := digit_classes hx
  refine whole_cons (by rw [isAlphanumeric, hnum, Bool.or_true]) fun y hy => ?_
  obtain ⟨halpha', hnum', hcap, -⟩ := digit_classes (hxs y hy)
  exact ⟨by rw [isAlphanumeric, hnum', Bool.or_true], hcap, halpha'.trans halpha.symm⟩

theorem whole_of_later (h : IsCapitalized w ∨ IsNumber w) : Whole w :=
  h.elim whole_of_isCapitalized whole_of_isNumber

/-- A capitalized word ends in a small letter. -/
theorem exists_getLast_of_isCapitalized (h : IsCapitalized w) : ∃ a ∈ w.getLast?, a.isLower = true := by
  obtain ⟨c, cs, rfl, -, hne, hcs⟩ := exists_of_isCapitalized h
  refine ⟨cs.getLast hne, ?_, hcs _ (List.getLast_mem hne)⟩
  rw [Option.mem_def, List.getLast?_cons, List.getLast?_eq_some_getLast hne]
  rfl

theorem exists_getLast_of_isNumber (h : IsNumber w) : ∃ a ∈ w.getLast?, a.isDigit = true :=
  ⟨w.getLast h.1, List.getLast?_eq_some_getLast h.1, h.2 _ (List.getLast_mem h.1)⟩

/-- **A capitalized word is cut off from any canonical word before it.** -/
theorem cutOff_of_isCapitalized (hu : IsCapitalized u ∨ IsNumber u) (hv : IsCapitalized v) : CutOff u v := by
  obtain ⟨b, bs, rfl, hb, -, -⟩ := exists_of_isCapitalized hv
  obtain ⟨hbalpha, hbcap, -⟩ := capital_classes hb
  rcases hu with hu | hu
  · obtain ⟨a, ha, hsmall⟩ := exists_getLast_of_isCapitalized hu
    obtain ⟨-, hlow, -, -⟩ := small_classes hsmall
    exact ⟨a, ha, b, rfl, fun _ => .beforeCapital hlow hbcap⟩
  · obtain ⟨a, ha, hdigit⟩ := exists_getLast_of_isNumber hu
    refine ⟨a, ha, b, rfl, fun _ => .besideLetter fun h => ?_⟩
    exact Bool.false_ne_true ((digit_classes hdigit).1.symm.trans (h.mpr hbalpha))

/-- A number is cut off from a capitalized word before it. -/
theorem cutOff_of_isNumber (hu : IsCapitalized u) (hv : IsNumber v) : CutOff u v := by
  obtain ⟨b, bs, rfl⟩ := List.exists_cons_of_ne_nil hv.1
  obtain ⟨a, ha, hsmall⟩ := exists_getLast_of_isCapitalized hu
  refine ⟨a, ha, b, rfl, fun _ => .besideLetter fun h => ?_⟩
  have hb := (digit_classes (hv.2 b List.mem_cons_self)).1
  exact Bool.false_ne_true (hb.symm.trans (h.mp (small_classes hsmall).1))

theorem CanonicalWords.all (h : CanonicalWords w ws) : ∀ v ∈ w :: ws, IsCapitalized v ∨ IsNumber v :=
  List.forall_mem_cons.mpr ⟨.inl h.first, h.later⟩

theorem CanonicalWords.isChain_cutOff (h : CanonicalWords w ws) : (w :: ws).IsChain CutOff := by
  refine h.apart.imp_of_mem_imp fun u v hu hv hapart => ?_
  rcases h.all v hv with hv | hv
  · exact cutOff_of_isCapitalized (h.all u hu) hv
  · exact cutOff_of_isNumber ((h.all u hu).resolve_right fun hu => hapart ⟨hu, hv⟩) hv

/-! ## Their spellings -/

theorem lowerFrom_of_ascii (before : List Char) (h : ∀ c ∈ cs, isAscii c = true) :
    lowerFrom before cs = cs.map Char.toLower := by
  induction cs generalizing before with
  | nil => rfl
  | cons c cs ih =>
    obtain ⟨hc, hcs⟩ := List.forall_mem_cons.mp h
    have hsigma : c ≠ 'Σ' := by
      rintro rfl
      exact absurd hc (by decide)
    rw [lowerFrom, if_neg hsigma, lowerChar_of_ascii hc, ih _ hcs, List.map_cons, List.singleton_append]

theorem lower_of_ascii (h : ∀ c ∈ cs, isAscii c = true) : lower cs = cs.map Char.toLower :=
  lowerFrom_of_ascii [] h

theorem map_toLower_of_fixed (h : ∀ c ∈ cs, c.toLower = c) : cs.map Char.toLower = cs :=
  (List.map_congr_left h).trans (List.map_id cs)

/-- A capitalized word with a small letter for its capital. -/
theorem map_toLower_of_isCapitalized (h : IsCapitalized (c :: cs)) :
    (c :: cs).map Char.toLower = c.toLower :: cs := by
  obtain ⟨_, _, he, -, -, hcs⟩ := exists_of_isCapitalized h
  obtain ⟨rfl, rfl⟩ := List.cons.inj he
  rw [List.map_cons, map_toLower_of_fixed fun x hx => (small_classes (hcs x hx)).2.2.2]

theorem isAscii_of_isCapitalized (h : IsCapitalized w) : ∀ c ∈ w, isAscii c = true := by
  obtain ⟨c, cs, rfl, hc, -, hcs⟩ := exists_of_isCapitalized h
  exact List.forall_mem_cons.mpr ⟨isAscii_of_isUpper hc, fun x hx => isAscii_of_isLower (hcs x hx)⟩

/-- The first character of a canonical word is its own capital, and the others are their own small letters. -/
theorem exists_fixed_of_later (h : IsCapitalized w ∨ IsNumber w) :
    ∃ c cs, w = c :: cs ∧ upperChar c = [c] ∧ lower cs = cs := by
  rcases h with h | h
  · obtain ⟨c, cs, rfl, hc, -, hcs⟩ := exists_of_isCapitalized h
    refine ⟨c, cs, rfl, ?_, ?_⟩
    · obtain ⟨-, -, hupper, -⟩ := capital_classes hc
      rw [upperChar_of_ascii (isAscii_of_isUpper hc), hupper]
    · rw [lower_of_ascii fun x hx => isAscii_of_isLower (hcs x hx),
        map_toLower_of_fixed fun x hx => (small_classes (hcs x hx)).2.2.2]
  · obtain ⟨c, cs, rfl⟩ := List.exists_cons_of_ne_nil h.1
    obtain ⟨hc, hcs⟩ := List.forall_mem_cons.mp h.2
    refine ⟨c, cs, rfl, ?_, ?_⟩
    · obtain ⟨-, -, -, -, hupper⟩ := digit_classes hc
      rw [upperChar_of_ascii (isAscii_of_isDigit hc), hupper]
    · have hfixed : ∀ x ∈ cs, x.toLower = x := fun x hx => by
        obtain ⟨-, -, -, hlower, -⟩ := digit_classes (hcs x hx)
        exact hlower
      rw [lower_of_ascii fun x hx => isAscii_of_isDigit (hcs x hx), map_toLower_of_fixed hfixed]

theorem camelWord_of_later (h : IsCapitalized w ∨ IsNumber w) : camelWord w = w := by
  obtain ⟨c, cs, rfl, hc, hcs⟩ := exists_fixed_of_later h
  rw [camelWord, hc, hcs, List.singleton_append]

theorem capitalize_of_later (h : IsCapitalized w ∨ IsNumber w) : capitalize w = w := by
  obtain ⟨c, cs, rfl, hc, -⟩ := exists_fixed_of_later h
  rw [capitalize, hc, List.singleton_append]

/-! ## Either name gives the other -/

/-- **The export name for a display name of canonical words.** -/
theorem exportName?_intercalate (h : CanonicalWords w ws) :
    exportName? (List.intercalate [' '] (w :: ws)) = some (w.map Char.toLower ++ ws.flatten) := by
  have hread := words_intercalate fun v hv => whole_of_later (h.all v hv)
  have hcamel : ws.flatMap camelWord = ws.flatten := by
    rw [← List.flatMap_id]
    exact List.flatMap_congr fun v hv => camelWord_of_later (h.later v hv)
  have hlower := lower_of_ascii (isAscii_of_isCapitalized h.first)
  simp only [exportName?, hread, camelCase, hcamel, hlower]
  obtain ⟨c, cs, rfl, hc, -, -⟩ := exists_of_isCapitalized h.first
  obtain ⟨-, -, -, -, hdigit, -⟩ := capital_classes hc
  rw [List.map_cons, List.cons_append, guardDigit, hdigit, if_neg Bool.false_ne_true]

/-- **The display name for an export name of canonical words.** -/
theorem displayName_flatten (h : CanonicalWords w ws) :
    displayName (w.map Char.toLower ++ ws.flatten) = List.intercalate [' '] (w :: ws) := by
  obtain ⟨c, cs, rfl, hc, hne, hcs⟩ := exists_of_isCapitalized h.first
  rw [map_toLower_of_isCapitalized h.first]
  obtain ⟨-, -, -, hsmall, -, hupper⟩ := capital_classes hc
  have hwhole : ∀ v ∈ (c.toLower :: cs) :: ws, Whole v :=
    List.forall_mem_cons.mpr
      ⟨whole_of_small (small_classes hsmall).1 hcs, fun v hv => whole_of_later (h.later v hv)⟩
  have hchain : ((c.toLower :: cs) :: ws).IsChain CutOff := by
    refine h.isChain_cutOff.imp_head fun {v} hcut => ?_
    rwa [CutOff, List.getLast?_cons_of_ne_nil hne, ← List.getLast?_cons_of_ne_nil hne] at hcut
  have hread := words_flatten_of_cutOff hwhole hchain
  rw [List.flatten_cons] at hread
  have hfirst : capitalize (c.toLower :: cs) = c :: cs := by
    rw [capitalize, upperChar_of_ascii (isAscii_of_isLower hsmall), hupper, List.singleton_append]
  have hlater : ws.map capitalize = ws :=
    (List.map_congr_left fun v hv => capitalize_of_later (h.later v hv)).trans (List.map_id ws)
  rw [displayName, hread, List.map_cons, hfirst, hlater]

/-- **Display names and export names of canonical words give each other.** -/
theorem exportName_displayName_of_canonical (h : CanonicalWords w ws) :
    exportName? (List.intercalate [' '] (w :: ws)) = some (w.map Char.toLower ++ ws.flatten) ∧
      displayName (w.map Char.toLower ++ ws.flatten) = List.intercalate [' '] (w :: ws) :=
  ⟨exportName?_intercalate h, displayName_flatten h⟩

/-- Two capitalized words with a number between them. -/
theorem exportName_displayName_numberedWords :
    CanonicalWords ['P', 'a', 'g', 'e'] [['4', '2'], ['O', 'k']] ∧
      exportName? ['P', 'a', 'g', 'e', ' ', '4', '2', ' ', 'O', 'k'] =
        some ['p', 'a', 'g', 'e', '4', '2', 'O', 'k'] ∧
      displayName ['p', 'a', 'g', 'e', '4', '2', 'O', 'k'] =
        ['P', 'a', 'g', 'e', ' ', '4', '2', ' ', 'O', 'k'] := by
  have h : CanonicalWords ['P', 'a', 'g', 'e'] [['4', '2'], ['O', 'k']] :=
    ⟨by decide, by decide, by decide⟩
  exact ⟨h, exportName_displayName_of_canonical h⟩

end StoryCatalog.Name
