import StoryCatalog.Text.Tables.Alphabetic
import StoryCatalog.Text.Tables.CaseIgnorable
import StoryCatalog.Text.Tables.Cased
import StoryCatalog.Text.Tables.Numeric

/-!
# Letters, numerals and letter case

The Unicode character classes that names are cut by. Each class answers ASCII characters directly
and looks the others up in its table. The tables follow Unicode 15.1; a later version classes
characters that were not yet assigned then.
-/

namespace StoryCatalog.Text

/-- Whether a character lies in one of the ranges, both ends included. -/
def inRanges (ranges : List (Nat × Nat)) (c : Char) : Bool :=
  ranges.any fun (first, last) => first ≤ c.toNat && c.toNat ≤ last

/-- Whether a code point is on a run of first, last and step. -/
def onRun (first last step n : Nat) : Bool :=
  first ≤ n && n ≤ last && (n - first) % step == 0

/-- Whether a character is on one of the runs of first, last and step. -/
def onRuns (runs : List (Nat × Nat × Nat)) (c : Char) : Bool :=
  runs.any fun (first, last, step) => onRun first last step c.toNat

/-- Whether a character belongs to the ASCII range. -/
def isAscii (c : Char) : Bool :=
  c.toNat < 128

/-- Whether a character is alphabetic. -/
def isAlphabetic (c : Char) : Bool :=
  if isAscii c then c.isAlpha else inRanges alphabeticRanges c

/-- Whether a character is a decimal digit, a letter numeral or another number. -/
def isNumeric (c : Char) : Bool :=
  if isAscii c then c.isDigit else inRanges numericRanges c

/-- Whether a character is alphabetic or numeric. -/
def isAlphanumeric (c : Char) : Bool :=
  isAlphabetic c || isNumeric c

/-- Whether a character is a small letter. -/
def isLowercase (c : Char) : Bool :=
  if isAscii c then c.isLower else onRuns lowercaseRuns c

/-- Whether a character is a capital letter. -/
def isUppercase (c : Char) : Bool :=
  if isAscii c then c.isUpper else onRuns uppercaseRuns c

/-- Whether a character has a case: small, capital or title. -/
def isCased (c : Char) : Bool :=
  isLowercase c || isUppercase c || onRuns titlecaseRuns c

/-- Whether a character is looked past when the end of a word is decided. -/
def isCaseIgnorable (c : Char) : Bool :=
  inRanges caseIgnorableRanges c

end StoryCatalog.Text
