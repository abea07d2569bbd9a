/-!
# The shortest decimal of a float

A positive finite float is a significand times a power of two. Every real number nearer to it than to
its neighbours reads back as it, and the two midpoints do so exactly if the significand is even.
`shortest` is a multiple of the coarsest power of ten that has one which reads back: of two such
multiples the nearer, and the even one if both are equally near.

* `readsBack_of_nearest?`: what a grid offers reads back.
-/

namespace StoryCatalog

/-- The decimal `digits` times ten to the `exponent`. -/
structure Decimal where
  digits : Nat
  exponent : Int

/-- A positive binary fraction, `significand` times two to the `exponent`. At an edge the significand
is the least of its binade, and the floats below lie twice as close together as those above. -/
structure BinaryFraction where
  significand : Nat
  exponent : Int
  isEdge : Bool

namespace BinaryFraction

/-- The absolute value of the finite float with these bits. -/
def ofBits (bits : UInt64) : BinaryFraction :=
  let fraction := bits.toNat % Nat.pow 2 52
  let biased := bits.toNat / Nat.pow 2 52 % Nat.pow 2 11
  if biased = 0 then ⟨fraction, -1074, false⟩
  else ⟨Nat.pow 2 52 + fraction, Int.ofNat biased - 1075, fraction == 0 && 1 < biased⟩

/-- The numerator of `n` times ten to the `e` over the denominator that `x` has on the same grid,
where `x` is counted in quarters of its last place. -/
def decimalPart (x : BinaryFraction) (e : Int) (n : Nat) : Nat :=
  n * Nat.pow 10 e.toNat * Nat.pow 2 (2 - x.exponent).toNat

/-- The numerator of `n` quarters of the last place of `x` on the grid of ten to the `e`. -/
def binaryPart (x : BinaryFraction) (e : Int) (n : Nat) : Nat :=
  n * Nat.pow 2 (x.exponent - 2).toNat * Nat.pow 10 (-e).toNat

/-- Whether `n` times ten to the `e` reads back as `x`. -/
def readsBack (x : BinaryFraction) (e : Int) (n : Nat) : Bool :=
  let point := x.decimalPart e n
  let low := x.binaryPart e (4 * x.significand - if x.isEdge then 1 else 2)
  let high := x.binaryPart e (4 * x.significand + 2)
  if x.significand % 2 = 0 then low ≤ point && point ≤ high else low < point && point < high

/-- The greatest multiple of ten to the `e` that is not above `x`, counted on that grid. -/
def floorOn (x : BinaryFraction) (e : Int) : Nat :=
  x.binaryPart e (4 * x.significand) / x.decimalPart e 1

/-- Whether the grid point `n` below `x` is nearer to it than the next one, or as near and even. -/
def isNearer (x : BinaryFraction) (e : Int) (n : Nat) : Bool :=
  let below := x.binaryPart e (4 * x.significand) - x.decimalPart e n
  let above := x.decimalPart e (n + 1) - x.binaryPart e (4 * x.significand)
  below < above || (below == above && n % 2 == 0)

/-- The multiple of ten to the `e` that reads back as `x` and is nearest to it, if there is one. -/
def nearest? (x : BinaryFraction) (e : Int) : Option Decimal :=
  let below := x.floorOn e
  if x.readsBack e below && (!x.readsBack e (below + 1) || x.isNearer e below) then some ⟨below, e⟩
  else if x.readsBack e (below + 1) then some ⟨below + 1, e⟩
  else none

/-- The decimal exponents of the grids, the coarsest first. -/
def grids : List Int :=
  (List.range 634).map fun i => 309 - Int.ofNat i

/-- The shortest decimal that reads back as `x`. -/
def shortest (x : BinaryFraction) : Decimal :=
  (grids.findSome? x.nearest?).getD ⟨0, 0⟩

/-- A multiple of a power of ten that a grid offers reads back. -/
theorem readsBack_of_nearest? {x : BinaryFraction} {e : Int} {d : Decimal}
    (h : x.nearest? e = some d) : x.readsBack e d.digits = true := by
  simp only [nearest?] at h
  split at h
  · next hb =>
    cases h
    exact (Bool.and_eq_true_iff.mp hb).1
  · split at h
    · next ha => cases h; exact ha
    · simp at h

end BinaryFraction

end StoryCatalog
