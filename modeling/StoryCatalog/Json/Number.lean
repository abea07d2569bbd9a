import StoryCatalog.Json.Basic

/-!
# Numbers in JSON text

A number is an optional minus sign, digits without a superfluous leading zero, and optionally a
fraction and an exponent. Without the last two it is an integer as long as it fits in 64 bits; minus
zero and every other number is a float. The float is that of the leading digits, as many as fit in
64 bits, times or over a power of ten that is itself a float; a number whose float would be infinite
has no value.
-/

namespace StoryCatalog

/-- A number as it is written. -/
structure Numeral where
  /-- Whether a minus sign is written. -/
  isNegative : Bool
  /-- The digits before the point. -/
  whole : List Nat
  /-- The digits after the point, if there is one. -/
  fraction : Option (List Nat)
  /-- Whether the exponent is negative, and its digits. -/
  exponent : Option (Bool × List Nat)

namespace Numeral

/-- Sixty-four bits hold the naturals below this. -/
def wordLimit : Nat := Nat.pow 2 64

/-- The number of a list of decimal digits. -/
def ofDigits (digits : List Nat) : Nat :=
  digits.foldl (fun n d => n * 10 + d) 0

/-- Appends digits to a significand as long as it fits in 64 bits; returns it with the digits that
no longer fit. -/
def takeDigits (significand : Nat) : List Nat → Nat × List Nat
  | [] => (significand, [])
  | d :: ds =>
    if significand * 10 + d < wordLimit then takeDigits (significand * 10 + d) ds
    else (significand, d :: ds)

/-- A power of ten as a float. -/
def powerOfTen (n : Nat) : Float :=
  Float.ofScientific 1 false n

/-- A float times ten to the `e`, for an exponent of at most 308 either way in one multiplication or
division. Larger divisors are taken off 308 places at a time, at most `fuel` times; `none` if the
result is infinite. -/
def scale (x : Float) (e : Int) : Nat → Option Float
  | 0 => some 0
  | fuel + 1 =>
    if e.natAbs ≤ 308 then
      if 0 ≤ e then
        let y := x * powerOfTen e.natAbs
        if y.isInf then none else some y
      else some (x / powerOfTen e.natAbs)
    else if x == 0 then some x
    else if 0 ≤ e then none
    else scale (x / powerOfTen 308) (e + 308) fuel

/-- The exponent that is written; one of eleven significant digits or more is beyond every float. -/
def writtenExponent (numeral : Numeral) : Int :=
  match numeral.exponent with
  | none => 0
  | some (isNegative, digits) =>
    let n := min (ofDigits digits) (Nat.pow 10 10)
    if isNegative then -(n : Int) else n

/-- The absolute value of the number as a float; `none` if it is infinite. -/
def magnitude? (numeral : Numeral) : Option Float :=
  let (whole, wholeRest) := takeDigits 0 numeral.whole
  let (significand, fractionRest) := takeDigits whole (numeral.fraction.getD [])
  let places := (numeral.fraction.getD []).length - fractionRest.length
  scale (UInt64.ofNat significand).toFloat
    ((wholeRest.length : Int) - places + numeral.writtenExponent) 8

/-- The value of the number; `none` if its float is infinite. -/
def value? (numeral : Numeral) : Option Number :=
  let n := ofDigits numeral.whole
  let isInteger := numeral.fraction.isNone && numeral.exponent.isNone
  if isInteger && !numeral.isNegative && n < wordLimit then some (.nat n)
  else if isInteger && numeral.isNegative && 0 < n && n ≤ Nat.pow 2 63 then some (.negative n)
  else do
    let x ← numeral.magnitude?
    pure (.real (if numeral.isNegative then -x else x))

end Numeral

end StoryCatalog
