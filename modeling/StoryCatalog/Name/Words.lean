import StoryCatalog.Text.Letter

/-!
# Words of a name

A name is cut into words at everything that is neither a letter nor a number, and between two
neighbouring characters where the spelling turns (`turnsAt`): from a small letter to a capital, from
a letter to a number or back, and before the last capital of an acronym that a small letter follows.

* `words_flatten`: the words hold the alphanumeric characters of the name, in order.
* `ne_nil_of_mem_words`: no word is empty.
-/

namespace StoryCatalog.Name

open Text

/-- Whether a word ends between the neighbouring characters `a` and `b`, where `next` is the
character after `b`. -/
def turnsAt (a b : Char) (next : Option Char) : Bool :=
  (isLowercase a && isUppercase b) ||
    (isAlphabetic a != isAlphabetic b) ||
    (isUppercase a && isUppercase b && next.any isLowercase)

/-- A word given last character first, as a list of no word or of one. -/
def finished : List Char → List (List Char)
  | [] => []
  | c :: cs => [(c :: cs).reverse]

/-- The words of a text that continues the word `current`, given last character first. -/
def wordsFrom (current : List Char) : List Char → List (List Char)
  | [] => finished current
  | c :: cs =>
    if !isAlphanumeric c then finished current ++ wordsFrom [] cs
    else if current.head?.any (turnsAt · c cs.head?) then finished current ++ wordsFrom [c] cs
    else wordsFrom (c :: current) cs

/-- The words of a name. -/
def words (cs : List Char) : List (List Char) :=
  wordsFrom [] cs

theorem finished_flatten (cs : List Char) : (finished cs).flatten = cs.reverse := by
  cases cs <;> simp [finished]

theorem wordsFrom_flatten (current cs : List Char) :
    (wordsFrom current cs).flatten = current.reverse ++ cs.filter isAlphanumeric := by
  induction cs generalizing current with
  | nil => simp [wordsFrom, finished_flatten]
  | cons c cs ih =>
    rw [wordsFrom]
    split
    · next h => simp_all [finished_flatten]
    · next h => split <;> simp_all [finished_flatten]

theorem words_flatten (cs : List Char) : (words cs).flatten = cs.filter isAlphanumeric := by
  simp [words, wordsFrom_flatten]

theorem ne_nil_of_mem_finished {w cs : List Char} (h : w ∈ finished cs) : w ≠ [] := by
  cases cs with
  | nil => simp [finished] at h
  | cons c cs =>
    rintro rfl
    simp [finished] at h

theorem ne_nil_of_mem_wordsFrom {w current cs : List Char} (h : w ∈ wordsFrom current cs) :
    w ≠ [] := by
  induction cs generalizing current with
  | nil => exact ne_nil_of_mem_finished h
  | cons c cs ih =>
    rw [wordsFrom] at h
    split at h
    · exact (List.mem_append.mp h).elim ne_nil_of_mem_finished ih
    · split at h
      · exact (List.mem_append.mp h).elim ne_nil_of_mem_finished ih
      · exact ih h

theorem ne_nil_of_mem_words {w cs : List Char} (h : w ∈ words cs) : w ≠ [] :=
  ne_nil_of_mem_wordsFrom h

end StoryCatalog.Name
