import StoryCatalog.Name.Words
import StoryCatalog.Text.Case

/-!
# Export names and display names

A story is shown under a display name and exported under an export name. `exportName?` spells the
words of a display name in camel case and guards a leading ASCII digit; `displayName` spells the
words of an export name apart, each with a capital.

* `exportName?_eq_none_iff`: only a name without letters and numbers has no export name.
-/

namespace StoryCatalog.Name

open Text

/-- A word after the first of an export name: a capital, then small letters. -/
def camelWord : List Char → List Char
  | [] => []
  | c :: cs => upperChar c ++ lower cs

/-- An identifier cannot begin with a digit, so one that would is given an underscore. -/
def guardDigit : List Char → List Char
  | [] => []
  | c :: cs => if c.isDigit then '_' :: c :: cs else c :: cs

/-- The words joined in camel case, the first in small letters. -/
def camelCase : List (List Char) → List Char
  | [] => []
  | w :: ws => lower w ++ ws.flatMap camelWord

/-- The export name for a display name; `none` if the name has no word. -/
def exportName? (name : List Char) : Option (List Char) :=
  match words name with
  | [] => none
  | w :: ws => some (guardDigit (camelCase (w :: ws)))

/-- The display name for an export name: its words with capitals, separated by spaces. -/
def displayName (name : List Char) : List Char :=
  List.intercalate [' '] ((words name).map capitalize)

theorem exportName?_eq_none_iff {name : List Char} :
    exportName? name = none ↔ name.filter isAlphanumeric = [] := by
  rw [← words_flatten, exportName?]
  cases h : words name with
  | nil => simp
  | cons w ws =>
    have : w ≠ [] := @ne_nil_of_mem_words w name (by simp [h])
    simp [this]

end StoryCatalog.Name
