import Faults.Numeral.Ratio
import Faults.Numeral.Decimal

/-!
# Digits and the place of the point

A decimal number is written from its digits and the place of its point
(`Places`), either positionally or as one digit before the point and a power
of ten.  Where a number of digits is asked for, they come from the exact value
of a ratio and the last one is rounded, ties to even:

* `significant` — so many digits, counted from the leading one;
* `fixed` — so many digits behind the point.
-/

namespace Faults

/-- Decimal digits and the place of the point: the value of
`⟨[d₁, d₂, …], k⟩` is `0.d₁d₂… * 10 ^ k`. -/
structure Places where
  /-- The digits, the leading one first. -/
  digits : Text
  /-- How many digits stand before the point. -/
  point : Int
  deriving Repr

namespace Places

/-- Zero, with one digit before the point. -/
def zero : Places :=
  ⟨['0'], 1⟩

/-- The digits of `n * 10 ^ exponent`, without the zeros that end `n`. -/
def ofScaled (n : Nat) (exponent : Int) : Places :=
  let all := Numeral.natural n
  if n = 0 then zero
  else ⟨(all.reverse.dropWhile (· == '0')).reverse, all.length + exponent⟩

/-- The digits with a point, and zeros where the point lies outside of them. -/
def positional (p : Places) : Text :=
  if p.point ≤ 0 then
    '0' :: '.' :: (List.replicate (-p.point).toNat '0' ++ p.digits)
  else if p.digits.length ≤ p.point then
    p.digits ++ List.replicate (p.point.toNat - p.digits.length) '0'
  else p.digits.take p.point.toNat ++ '.' :: p.digits.drop p.point.toNat

/-- Whether the point has no digit behind it, so that the value is integral. -/
def isIntegral (p : Places) : Bool :=
  p.digits.length ≤ p.point

/-- The power of ten of the leading digit. -/
def exponent (p : Places) : Int :=
  p.point - 1

/-- The leading digit, the others behind a point, and the power of ten of the
leading digit behind the given letter. -/
def scientific (letter : Char) (p : Places) : Text :=
  let mantissa := match p.digits with
    | d :: e :: others => d :: '.' :: e :: others
    | digits => digits
  mantissa ++ letter :: Numeral.decimal p.exponent

end Places

namespace Ratio

/-- The first `n` digits of a ratio. -/
def significant (x : Ratio) (n : Nat) : Places :=
  if x.num = 0 then ⟨List.replicate n '0', 1⟩
  else
    let unit := x.magnitude - n
    let all := Numeral.natural (x.scale 10 (-unit)).halfEven
    -- Rounding up to the next power of ten makes one digit too many, a zero.
    ⟨all.take n, all.length + unit⟩

/-- A ratio with `places` digits behind the point, and at least one before it. -/
def fixed (x : Ratio) (places : Nat) : Text :=
  let all := Numeral.natural (x.scale 10 places).halfEven
  let padded := List.replicate (places + 1 - all.length) '0' ++ all
  let whole := padded.length - places
  if places = 0 then padded else padded.take whole ++ '.' :: padded.drop whole

end Ratio

end Faults
