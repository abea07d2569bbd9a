import StoryCatalog.Decimal.Nearest
import StoryCatalog.Json.Number
import StoryCatalog.Json.Reader
import StoryCatalog.Tree.Script

/-!
# The values of literals

`unescape` gives the text that an escape of a string or a template stands for: a code point escape stands for its
character, a line continuation for nothing, and an escape without a meaning of its own for itself. `numberValue`
gives the value of a number. A number that is not plainly decimal is kept as it is written.
-/

namespace StoryCatalog.JavaScript

/-! ## Escapes -/

/-- The digits of a number, which may begin with a plus sign. -/
def unsigned : List Char → List Char
  | '+' :: d :: ds => d :: ds
  | ds => ds

/-- The character whose number some hexadecimal digits spell. -/
def scalar? (digits : List Char) : Option Char := do
  let n ← Json.hexNumber? (unsigned digits)
  if digits ≠ [] ∧ n.isValidChar then pure (Char.ofNat n) else none

/-- The hexadecimal digits of a code point escape. -/
def codePointDigits? : List Char → Option (List Char)
  | 'u' :: '\x7b' :: cs =>
    if cs.getLast? = some '\x7d' then some cs.dropLast else some ('\x7b' :: cs)
  | 'u' :: cs => some cs
  | 'x' :: cs => some cs
  | _ => none

/-- The text that an escape stands for, given its characters after the backslash. -/
def unescapeBody (body : List Char) : List Char :=
  match body with
  | ['n'] => ['\n']
  | ['t'] => ['\t']
  | ['r'] => ['\r']
  | ['0'] => ['\x00']
  | ['b'] => ['\x08']
  | ['f'] => ['\x0c']
  | ['v'] => ['\x0b']
  | _ =>
    match (codePointDigits? body).bind scalar? with
    | some c => [c]
    | none => if body.head? = some '\n' ∨ body.head? = some '\r' then [] else body

/-- The text that an escape stands for. -/
def unescape (sequence : List Char) : List Char :=
  match sequence with
  | '\\' :: body => unescapeBody body
  | body => unescapeBody body

/-! ## Numbers -/

/-- The number that decimal digits spell. -/
def digitsValue (cs : List Char) : Nat :=
  Numeral.ofDigits (cs.map fun c => c.toNat - 48)

/-- The number that a text spells, if it is nothing but digits. -/
def digits? (cs : List Char) : Option Nat :=
  if cs ≠ [] ∧ cs.all Char.isDigit then some (digitsValue cs) else none

/-- The exponent that a text spells; an empty text spells zero. -/
def exponent? : List Char → Option Int
  | [] => some 0
  | e :: cs =>
    if e = 'e' ∨ e = 'E' then
      match cs with
      | '-' :: ds => (digits? ds).map fun n => -n
      | '+' :: ds => (digits? ds).map fun n => n
      | ds => (digits? ds).map fun n => n
    else none

/-- The decimal that a text spells: digits, a point between, before or after them, and an exponent. -/
def decimal? (cs : List Char) : Option Decimal :=
  let whole := cs.takeWhile Char.isDigit
  let rest := cs.drop whole.length
  let fraction := match rest with
    | '.' :: ds => ds.takeWhile Char.isDigit
    | _ => []
  let rest := if rest.head? = some '.' then rest.drop (fraction.length + 1) else rest
  if whole ++ fraction = [] then none
  else (exponent? rest).map fun e => ⟨digitsValue (whole ++ fraction), e - fraction.length⟩

/-- The float that a text without a sign spells. -/
def unsignedFloat? (cs : List Char) : Option Float :=
  let word := String.ofList (cs.map Char.toLower)
  if word = "inf" ∨ word = "infinity" then some (1 / 0)
  else if word = "nan" then some (0 / 0)
  else (decimal? cs).map (·.toFloat)

/-- The float that a text spells. -/
def float? : List Char → Option Float
  | '-' :: cs => (unsignedFloat? cs).map fun x => -x
  | '+' :: cs => unsignedFloat? cs
  | cs => unsignedFloat? cs

/-- The value of a number: a float if the text spells one, else the text as it is written. -/
def numberValue (cs : List Char) : LiteralValue :=
  match float? cs with
  | some x => .number x
  | none => .other (.string (String.ofList cs))

end StoryCatalog.JavaScript
