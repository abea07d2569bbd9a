/-!
# The 32-bit fold of a text

`fold` multiplies a signed 32-bit accumulator by 31 and adds the next UTF-16 code unit, wrapping
around; `foldHex` writes the absolute value of the result in hexadecimal. The absolute value is
taken over the integers, so the least accumulator gives `80000000`.

* `fold_append`: the fold of two texts in a row continues the fold of the first.
-/

namespace StoryCatalog.Digest

/-- The UTF-16 code units of a character. -/
def codeUnits (c : Char) : List Nat :=
  let n := c.toNat
  if n < 0x10000 then [n]
  else [0xd800 + (n - 0x10000) / 0x400, 0xdc00 + (n - 0x10000) % 0x400]

/-- One step of the fold. -/
def foldUnit (acc : Int32) (unit : Nat) : Int32 :=
  acc * 31 + Int32.ofNat unit

/-- The accumulator after the code units of a text. -/
def foldFrom (acc : Int32) (cs : List Char) : Int32 :=
  (cs.flatMap codeUnits).foldl foldUnit acc

/-- The 32-bit fold of a text. -/
def fold (cs : List Char) : Int32 :=
  foldFrom 0 cs

/-- The fold's absolute value in lower-case hexadecimal digits. -/
def foldHex (cs : List Char) : List Char :=
  Nat.toDigits 16 (fold cs).toInt.natAbs

theorem fold_append (a b : List Char) : fold (a ++ b) = foldFrom (fold a) b := by
  simp [fold, foldFrom]

end StoryCatalog.Digest
