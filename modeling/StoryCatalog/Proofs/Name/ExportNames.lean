import StoryCatalog.Name.Export
import StoryCatalog.Proofs.Name.Initials

/-!
# What export names begin with

An export name begins with the lower-case image of the first letter or numeral of the display name, after an
underscore if that is an ASCII digit. So it can stand where a name is expected unless the display name begins
with a numeral of another kind, which gets no underscore.

* `exists_exportName?_eq`: the beginning of an export name.
* `exportName_starts_iff`: which display names have an export name, and which export names begin as names do.
* `exportName_of_arabicDigit`: an export name that begins with a numeral.
-/

namespace StoryCatalog.Name

open Text

variable {f d : Char} {name rest : List Char}

/-- A text begins as names do: with an underscore or a letter, and with no numeral. -/
def StartsName : List Char → Prop
  | [] => False
  | c :: _ => (c = '_' ∨ isAlphabetic c = true) ∧ isNumeric c = false

instance (name : List Char) : Decidable (StartsName name) :=
  match name with
  | [] => inferInstanceAs (Decidable False)
  | c :: _ => inferInstanceAs (Decidable ((c = '_' ∨ isAlphabetic c = true) ∧ isNumeric c = false))

/-- The underscore helps against ASCII digits, and nothing else needs help but other numerals. -/
theorem startsName_guardDigit_iff (h : SameKind f d) :
    StartsName (guardDigit (d :: rest)) ↔ (isNumeric f = true → f.isDigit = true) := by
  rw [guardDigit, h.digit]
  cases hdigit : f.isDigit with
  | true => exact iff_of_true (by rw [if_pos rfl, StartsName]; decide) fun _ => rfl
  | false =>
    rw [if_neg Bool.false_ne_true, StartsName, h.numeric]
    cases hn : isNumeric f with
    | true => exact iff_of_false (fun hs => Bool.noConfusion hs.2) fun hi => Bool.false_ne_true (hi rfl)
    | false => exact iff_of_true ⟨.inr (h.letter hn), rfl⟩ fun hf => absurd hf Bool.false_ne_true

/-- **The beginning of an export name** is of one kind with the first letter or numeral of the display name. -/
theorem exists_exportName?_eq (h : name.find? isAlphanumeric = some f) :
    ∃ d rest, exportName? name = some (guardDigit (d :: rest)) ∧ SameKind f d := by
  have hf : isAlphanumeric f = true := List.find?_some h
  rw [← List.head?_filter, ← words_flatten] at h
  cases hw : words name with
  | nil =>
    rw [hw] at h
    cases h
  | cons w ws =>
    have hne : w ≠ [] := ne_nil_of_mem_words (hw ▸ List.mem_cons_self)
    obtain ⟨c, w', rfl⟩ := List.exists_cons_of_ne_nil hne
    rw [hw] at h
    obtain rfl : c = f := Option.some.inj h
    obtain ⟨d, rest, hlower, hk⟩ := exists_lower_eq hf w'
    refine ⟨d, rest ++ ws.flatMap camelWord, ?_, hk⟩
    simp only [exportName?, hw, camelCase, hlower, List.cons_append]

/-- **Which display names have an export name, and which export names begin as names do.** A display name has
none exactly if it has no letter and no numeral. Otherwise the export name begins as names do exactly if the
first of these is no numeral other than an ASCII digit. -/
theorem exportName_starts_iff (name : List Char) :
    (exportName? name = none ↔ ∀ c ∈ name, isAlphanumeric c = false) ∧
      ∀ f, name.find? isAlphanumeric = some f →
        ∃ e, exportName? name = some e ∧ e ≠ [] ∧
          (StartsName e ↔ (isNumeric f = true → f.isDigit = true)) := by
  constructor
  · rw [exportName?_eq_none_iff, List.filter_eq_nil_iff]
    simp only [Bool.not_eq_true]
  · intro f hf
    obtain ⟨d, rest, he, hk⟩ := exists_exportName?_eq hf
    refine ⟨guardDigit (d :: rest), he, ?_, startsName_guardDigit_iff hk⟩
    rw [guardDigit]
    split <;> exact List.cons_ne_nil _ _

/-- A display name that begins with a sign, then with a digit. -/
theorem exportName_starts_numberSign :
    ['№', '4', '2', ' ', 'É'].find? isAlphanumeric = some '4' ∧
      ∃ e, exportName? ['№', '4', '2', ' ', 'É'] = some e ∧ e ≠ [] ∧
        (StartsName e ↔ (isNumeric '4' = true → '4'.isDigit = true)) := by
  have hf : ['№', '4', '2', ' ', 'É'].find? isAlphanumeric = some '4' := by decide +kernel
  exact ⟨hf, (exportName_starts_iff ['№', '4', '2', ' ', 'É']).2 '4' hf⟩

/-- An export name can begin with a numeral. -/
theorem exportName_of_arabicDigit :
    ¬∀ name e, exportName? name = some e → StartsName e := by
  intro h
  exact absurd (h ['٣'] ['٣'] (by decide +kernel)) (by decide +kernel)

end StoryCatalog.Name
