/-!
# Ratios

Rounding and digit generation compare exact ratios of natural numbers.  A
`Ratio` is a numerator over a denominator, not reduced; it is scaled by powers
of a base, cut or rounded to a natural number, and compared by cross
multiplication.

* `halfEven` — the nearest natural number, a half going to the even neighbour;
* `floorLog2` — the place of the leading binary digit;
* `magnitude` — the place of the leading decimal digit: a positive `x` lies
  from `10 ^ (x.magnitude - 1)` up to, but not including, `10 ^ x.magnitude`.
-/

namespace Faults

/-- A ratio of natural numbers. -/
structure Ratio where
  num : Nat
  /-- The denominator; every use keeps it positive. -/
  den : Nat
  deriving Repr

namespace Ratio

/-- A natural number as a ratio. -/
def ofNat (n : Nat) : Ratio :=
  ⟨n, 1⟩

/-- The ratio times `base ^ k`, for an exponent of either sign. -/
def scale (x : Ratio) (base : Nat) (k : Int) : Ratio :=
  if 0 ≤ k then ⟨x.num * Nat.pow base k.toNat, x.den⟩
  else ⟨x.num, x.den * Nat.pow base (-k).toNat⟩

/-- Whether one ratio lies below another. -/
def lt (x y : Ratio) : Bool :=
  x.num * y.den < y.num * x.den

/-- Whether one ratio does not exceed another. -/
def le (x y : Ratio) : Bool :=
  x.num * y.den ≤ y.num * x.den

/-- The greatest natural number that does not exceed the ratio. -/
def floor (x : Ratio) : Nat :=
  x.num / x.den

/-- Whether the ratio lies at least half way from `floor` to the next natural number. -/
def isUpperHalf (x : Ratio) : Bool :=
  x.den ≤ 2 * (x.num % x.den)

/-- The natural number nearest to the ratio; a half goes to the even neighbour. -/
def halfEven (x : Ratio) : Nat :=
  let excess := 2 * (x.num % x.den)
  if x.den < excess ∨ (excess = x.den ∧ x.floor % 2 = 1) then x.floor + 1 else x.floor

/-- The greatest `k` with `2 ^ k` not above a positive ratio. -/
def floorLog2 (x : Ratio) : Int :=
  let guess : Int := x.num.log2 - x.den.log2
  if x.lt ((ofNat 1).scale 2 guess) then guess - 1 else guess

/-- The number of decimal digits before the point of a positive ratio; below
one tenth it counts, negatively, the zeros that follow the point. -/
def magnitude (x : Ratio) : Int :=
  if x.den ≤ x.num then (Nat.toDigits 10 (x.num / x.den)).length
  else 1 - (Nat.toDigits 10 ((x.den - 1) / x.num)).length

end Ratio

end Faults
