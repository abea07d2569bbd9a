import StoryCatalog.Json.Basic
import StoryCatalog.Decimal.Shortest

/-!
# Writing JSON text

`Json.render` writes a value without blanks. A float has the fewest digits that read back; it always
has a point or an exponent, so it never looks like an integer. Of the characters of a string only the
quote, the backslash and the control characters are escaped.
-/

namespace StoryCatalog

/-- A natural number in decimal digits. -/
def natDigits (n : Nat) : List Char :=
  Nat.toDigits 10 n

/-- A decimal with a point or an exponent: positional from 0.00001 up to sixteen places before the
point, otherwise the first digit, the rest of them behind a point, and the power of ten. -/
def Decimal.layout (d : Decimal) : List Char :=
  let digits := natDigits d.digits
  let place := (digits.length : Int) + d.exponent
  if 0 ≤ d.exponent ∧ place ≤ 16 then
    digits ++ List.replicate d.exponent.toNat '0' ++ ['.', '0']
  else if 0 < place ∧ place ≤ 16 then
    digits.take place.toNat ++ '.' :: digits.drop place.toNat
  else if -5 < place ∧ place ≤ 0 then
    '0' :: '.' :: (List.replicate (-place).toNat '0' ++ digits)
  else
    let exponent := place - 1
    let power := (if exponent < 0 then ['-'] else []) ++ natDigits exponent.natAbs
    digits.take 1 ++ (if digits.length = 1 then [] else '.' :: digits.drop 1) ++ 'e' :: power

/-- A finite float as it is written in JSON. -/
def floatText (x : Float) : List Char :=
  let bits := x.toBits
  let magnitude := BinaryFraction.ofBits bits
  let unsigned := if magnitude.significand = 0 then ['0', '.', '0'] else magnitude.shortest.layout
  if bits.toNat < Nat.pow 2 63 then unsigned else '-' :: unsigned

/-- A number as it is written in JSON. -/
def Number.text : Number → List Char
  | nat n => natDigits n
  | negative n => '-' :: natDigits n
  | real x => floatText x

/-- A lower-case hexadecimal number with leading zeros up to a width. -/
def hexText (width n : Nat) : List Char :=
  let digits := Nat.toDigits 16 n
  List.replicate (width - digits.length) '0' ++ digits

namespace Json

/-- A character inside a string. -/
def escape (c : Char) : List Char :=
  if c = '"' then ['\\', '"']
  else if c = '\\' then ['\\', '\\']
  else if c = '\n' then ['\\', 'n']
  else if c = '\r' then ['\\', 'r']
  else if c = '\t' then ['\\', 't']
  else if c = '\x08' then ['\\', 'b']
  else if c = '\x0c' then ['\\', 'f']
  else if c.toNat < 0x20 then '\\' :: 'u' :: hexText 4 c.toNat
  else [c]

/-- A string in quotes. -/
def quote (s : String) : List Char :=
  '"' :: s.toList.flatMap escape ++ ['"']

mutual

/-- The text of a value, followed by `rest`. -/
def written : Json → List Char → List Char
  | null, rest => "null".toList ++ rest
  | bool true, rest => "true".toList ++ rest
  | bool false, rest => "false".toList ++ rest
  | number n, rest => n.text ++ rest
  | string s, rest => quote s ++ rest
  | array [], rest => '[' :: ']' :: rest
  | array (j :: js), rest => '[' :: j.written (writtenItems js (']' :: rest))
  | object [], rest => '\x7b' :: '\x7d' :: rest
  | object ((k, j) :: ms), rest =>
    '\x7b' :: quote k ++ ':' :: j.written (writtenMembers ms ('\x7d' :: rest))
  | broken, rest => "null".toList ++ rest

/-- Further items of an array, each after a comma. -/
def writtenItems : List Json → List Char → List Char
  | [], rest => rest
  | j :: js, rest => ',' :: j.written (writtenItems js rest)

/-- Further members of an object, each after a comma. -/
def writtenMembers : List (String × Json) → List Char → List Char
  | [], rest => rest
  | (k, j) :: ms, rest => ',' :: quote k ++ ':' :: j.written (writtenMembers ms rest)

end

/-- The text of a value. -/
def render (j : Json) : String :=
  String.ofList (j.written [])

end Json

end StoryCatalog
