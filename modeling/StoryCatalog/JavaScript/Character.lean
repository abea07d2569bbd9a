import StoryCatalog.Json.Reader

/-!
# Characters and words of JavaScript text

Between tokens stand blanks and comments. A word is a run of word characters that does not begin with
a digit; it may hold Unicode escapes, which are kept as they are written.

* `takeEscape?_append`: an escape and the text after it are the text.
-/

namespace StoryCatalog.JavaScript

/-- Whether a character is an ASCII blank. -/
def isAsciiBlank (c : Char) : Bool :=
  c == ' ' || (9 ≤ c.toNat && c.toNat ≤ 13)

/-- Whether a character ends a line. -/
def isLineEnd (c : Char) : Bool :=
  c == '\n' || c.toNat == 0x2028 || c.toNat == 0x2029

/-- Whether a character has the general category of a space separator. -/
def isSpaceSeparator (c : Char) : Bool :=
  let n := c.toNat
  n == 0x20 || n == 0xa0 || n == 0x1680 || (0x2000 ≤ n && n ≤ 0x200a) || n == 0x202f ||
    n == 0x205f || n == 0x3000

/-- Whether a character may stand between tokens. -/
def isBlank (c : Char) : Bool :=
  let n := c.toNat
  isAsciiBlank c || isSpaceSeparator c || n == 0xfeff || n == 0x2028 || n == 0x2029 ||
    n == 0x2060 || n == 0x200b

/-- The ASCII characters that are no part of a word, digits apart. -/
def isPunctuation (c : Char) : Bool :=
  ":;`\"'@#.,|^&<>=+-*/\\%?!~()[]\x7b\x7d".toList.contains c

/-- Whether a character may stand in a word. -/
def isWordChar (c : Char) : Bool :=
  0x20 ≤ c.toNat && !isBlank c && !isPunctuation c

/-- Whether a character is a hexadecimal digit. -/
def isHexDigit (c : Char) : Bool :=
  (Json.hexDigit? c).isSome

/-- A Unicode escape in a word, and the text after it. -/
def takeEscape? : List Char → Option (List Char × List Char)
  | '\\' :: 'u' :: '\x7b' :: cs =>
    match cs.takeWhile isHexDigit, cs.dropWhile isHexDigit with
    | d :: ds, '\x7d' :: rest => some ('\\' :: 'u' :: '\x7b' :: d :: ds ++ ['\x7d'], rest)
    | _, _ => none
  | '\\' :: 'u' :: a :: b :: c :: d :: cs =>
    if [a, b, c, d].all isHexDigit then some (['\\', 'u', a, b, c, d], cs) else none
  | _ => none

theorem takeEscape?_append {cs e rest : List Char} (h : takeEscape? cs = some (e, rest)) :
    e ++ rest = cs := by
  rw [takeEscape?.eq_def] at h
  split at h
  · next cs =>
    have hs := @List.takeWhile_append_dropWhile _ isHexDigit cs
    split at h
    · next hd hr =>
      rw [hd, hr] at hs
      simp only [Option.some.injEq, Prod.mk.injEq] at h
      obtain ⟨rfl, rfl⟩ := h
      simp [← hs]
    · simp at h
  · split at h
    · simp only [Option.some.injEq, Prod.mk.injEq] at h
      obtain ⟨rfl, rfl⟩ := h
      rfl
    · simp at h
  · simp at h

/-! ## Runs -/

/-- A text cut after the runs of characters that it begins with, where `run` gives the length of the
run at the front of a text, 0 if there is none. The first `within` characters belong to a run that has
begun. -/
def takeRuns (run : List Char → Nat) : Nat → List Char → List Char × List Char
  | _, [] => ([], [])
  | n + 1, c :: cs =>
    let (taken, rest) := takeRuns run n cs
    (c :: taken, rest)
  | 0, c :: cs =>
    match run (c :: cs) with
    | 0 => ([], c :: cs)
    | n + 1 =>
      let (taken, rest) := takeRuns run n cs
      (c :: taken, rest)

/-- The length of the word character or escape at the front of a text. -/
def wordRun (cs : List Char) : Nat :=
  match takeEscape? cs with
  | some (e, _) => e.length
  | none => if cs.head?.any isWordChar then 1 else 0

/-- The word that a text begins with, and the text after it; the word is empty if there is none. -/
def takeWord (cs : List Char) : List Char × List Char :=
  if cs.head?.any Char.isDigit then ([], cs) else takeRuns wordRun 0 cs

end StoryCatalog.JavaScript
