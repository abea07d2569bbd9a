import StoryCatalog.Text.Letter
import StoryCatalog.Text.Tables.CaseMap

/-!
# Case mappings of text

`upperChar` and `lowerChar` are the full Unicode mappings of one character, which may have up to
three characters as image. `lower` maps a text: a capital sigma at the end of a word becomes the
final small sigma, and every other character is mapped on its own.

* `upperChar_of_ascii`, `lowerChar_of_ascii`: ASCII characters have a single image.
-/

namespace StoryCatalog.Text

/-- The image of a code point on the first run of first, last, step and target that holds it. -/
def mapOnRuns (runs : List (Nat × Nat × Nat × Nat)) (n : Nat) : Option Nat :=
  runs.findSome? fun (first, last, step, target) =>
    if onRun first last step n then some (target + (n - first)) else none

/-- The image of a character under a mapping given by a table of several characters and by runs; a
character in neither is its own image. -/
def mapChar (many : List (Nat × List Nat)) (runs : List (Nat × Nat × Nat × Nat)) (c : Char) :
    List Char :=
  match many.lookup c.toNat with
  | some image => image.map Char.ofNat
  | none => [(mapOnRuns runs c.toNat).elim c Char.ofNat]

/-- The upper-case image of a character. -/
def upperChar (c : Char) : List Char :=
  if isAscii c then [c.toUpper] else mapChar toUpperMany toUpperRuns c

/-- The lower-case image of a character, wherever it stands. -/
def lowerChar (c : Char) : List Char :=
  if isAscii c then [c.toLower] else mapChar toLowerMany toLowerRuns c

/-- Whether a text, after its case-ignorable characters, goes on with a cased one. -/
def goesOnCased (cs : List Char) : Bool :=
  match cs.dropWhile isCaseIgnorable with
  | [] => false
  | c :: _ => isCased c

/-- Whether a sigma ends a word: a cased character before it and none after it. The text before it
is given from the sigma backwards. -/
def endsWord (before after : List Char) : Bool :=
  goesOnCased before && !goesOnCased after

/-- The lower-case text of `cs`, where `before` is what precedes it, last character first. -/
def lowerFrom (before : List Char) : List Char → List Char
  | [] => []
  | c :: cs =>
    (if c = 'Σ' then [if endsWord before cs then 'ς' else 'σ'] else lowerChar c)
      ++ lowerFrom (c :: before) cs

/-- The lower-case text. -/
def lower (cs : List Char) : List Char :=
  lowerFrom [] cs

/-- The text with its first character in upper case. -/
def capitalize : List Char → List Char
  | [] => []
  | c :: cs => upperChar c ++ cs

theorem upperChar_of_ascii {c : Char} (h : isAscii c = true) : upperChar c = [c.toUpper] := by
  simp [upperChar, h]

theorem lowerChar_of_ascii {c : Char} (h : isAscii c = true) : lowerChar c = [c.toLower] := by
  simp [lowerChar, h]

end StoryCatalog.Text
