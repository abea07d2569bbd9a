import StoryCatalog.Text.Blank

/-!
# Lines, shared indentation and single lines

`lines` cuts a text after each line feed and drops the ending, which is a line feed or a carriage
return with a line feed. `dedent` removes the indentation that every non-blank line shares and trims
the result; `oneLine` removes the line breaks and trims.

* `sharedIndent_le`: the shared indentation is at most that of any non-blank line, so cutting it off
  a line removes spaces and tabs only.
-/

namespace StoryCatalog.Text

/-- The lines of a text without their endings. A text that ends in a line feed has no further line
after it, and a carriage return counts as part of the ending only before a line feed. -/
def lines : List Char → List (List Char)
  | [] => []
  | '\n' :: cs => [] :: lines cs
  | '\r' :: '\n' :: cs => [] :: lines cs
  | c :: cs =>
    match lines cs with
    | [] => [[c]]
    | l :: ls => (c :: l) :: ls

/-- Whether a character counts as indentation. -/
def isIndent (c : Char) : Bool :=
  c == ' ' || c == '\t'

/-- How many spaces and tabs a line begins with. -/
def indent (line : List Char) : Nat :=
  (line.takeWhile isIndent).length

/-- The least indentation of a non-blank line, zero if there is none. -/
def sharedIndent (ls : List (List Char)) : Nat :=
  (((ls.filter (!isBlankText ·)).map indent).min?).getD 0

/-- A line after its first `n` characters; a blank line becomes empty. -/
def cutIndent (n : Nat) (line : List Char) : List Char :=
  if isBlankText line then [] else line.drop n

/-- The text with the shared indentation removed from every line, blank lines emptied, and the ends
trimmed. -/
def dedent (cs : List Char) : List Char :=
  let ls := lines cs
  trim (List.intercalate ['\n'] (ls.map (cutIndent (sharedIndent ls))))

/-- Whether a character breaks a line. -/
def isLineBreak (c : Char) : Bool :=
  c == '\n' || c == '\r'

/-- The text without line feeds and carriage returns, trimmed. -/
def oneLine (cs : List Char) : List Char :=
  trim (cs.filter (!isLineBreak ·))

/-- The shared indentation is at most the indentation of any non-blank line. -/
theorem sharedIndent_le {ls : List (List Char)} {l : List Char} (hl : l ∈ ls)
    (hb : isBlankText l = false) : sharedIndent ls ≤ indent l := by
  have hmem : indent l ∈ (ls.filter (!isBlankText ·)).map indent :=
    List.mem_map.mpr ⟨l, List.mem_filter.mpr ⟨hl, by simp [hb]⟩, rfl⟩
  unfold sharedIndent
  cases hm : ((ls.filter (!isBlankText ·)).map indent).min? with
  | none => simp
  | some m => exact (List.min?_eq_some_iff.mp hm).2 _ hmem

end StoryCatalog.Text
