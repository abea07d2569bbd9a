import StoryCatalog.Decimal.Shortest

/-!
# The float nearest to a decimal

A decimal far beyond the range of floats is infinite or zero; the rest is rounded to the nearest float.
-/

namespace StoryCatalog.Decimal

/-- The float nearest to a decimal. -/
def toFloat (d : Decimal) : Float :=
  let place := (Nat.toDigits 10 d.digits).length + d.exponent
  if d.digits = 0 then 0
  else if 400 < place then 1.0 / 0.0
  else if place < -400 then 0
  else if 0 ≤ d.exponent then Float.ofScientific (d.digits * Nat.pow 10 d.exponent.toNat) false 0
  else Float.ofScientific d.digits true d.exponent.natAbs

end StoryCatalog.Decimal
