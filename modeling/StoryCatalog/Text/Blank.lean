/-!
# Blank characters and trimming

`isBlank` is the Unicode property White_Space. `trim` removes blank characters at both ends of a
text and nothing else.

* `trim_eq_self`: a text that neither begins nor ends with a blank is left alone.
-/

namespace StoryCatalog.Text

/-- Whether a character has the Unicode property White_Space. -/
def isBlank (c : Char) : Bool :=
  let n := c.toNat
  (9 ≤ n && n ≤ 13) || n == 32 || n == 0x85 || n == 0xa0 || n == 0x1680 ||
    (0x2000 ≤ n && n ≤ 0x200a) || n == 0x2028 || n == 0x2029 || n == 0x202f || n == 0x205f ||
    n == 0x3000

/-- The text without the blanks it ends with. -/
def trimEnd (cs : List Char) : List Char :=
  (cs.reverse.dropWhile isBlank).reverse

/-- The text without the blanks it begins with and ends with. -/
def trim (cs : List Char) : List Char :=
  trimEnd (cs.dropWhile isBlank)

/-- Whether a text holds nothing but blanks. -/
def isBlankText (cs : List Char) : Bool :=
  cs.all isBlank

/-- A function on character lists, applied to a string. -/
def onText (f : List Char → List Char) (s : String) : String :=
  String.ofList (f s.toList)

@[simp] theorem toList_onText (f : List Char → List Char) (s : String) :
    (onText f s).toList = f s.toList := by
  simp [onText]

theorem trim_eq_self {cs : List Char} (hb : cs.head?.all (!isBlank ·) = true)
    (he : cs.getLast?.all (!isBlank ·) = true) : trim cs = cs := by
  have drop : ∀ l : List Char, l.head?.all (!isBlank ·) = true → l.dropWhile isBlank = l := by
    intro l hl
    cases l with
    | nil => rfl
    | cons c r =>
      have hc : isBlank c = false := by simpa using hl
      simp [List.dropWhile, hc]
  rw [trim, drop cs hb, trimEnd, drop cs.reverse (by simpa using he), List.reverse_reverse]

end StoryCatalog.Text
