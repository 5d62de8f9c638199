import Faults.Numeral.Ratio

/-!
# Binary floating-point numbers

A `BinaryFormat` fixes how many bits a significand has and which exponents are
allowed; `double` and `single` are the two formats of 64 and 32 bits.  A value
is kept in the form `± significand * 2 ^ exponent`, next to the two infinities
and the one value that is not a number.  Zero keeps its sign.

`BinaryFormat.round` is the one way from an exact ratio to a value: the
nearest value of the format, ties to the even significand, with the values of
the least exponent losing bits gradually and everything beyond the greatest
value becoming infinite.  `BinaryFormat.ofDecimal` rounds a decimal numeral with an
exponent of any size; far outside the range it answers without ever
forming the power of ten.
-/

namespace Faults

/-- The shape of a binary floating-point format. -/
structure BinaryFormat where
  /-- The number of bits of a significand. -/
  precision : Nat
  /-- The least exponent of the last place. -/
  leastExponent : Int
  /-- The greatest exponent of the last place. -/
  greatestExponent : Int
  deriving DecidableEq, Repr

def BinaryFormat.double : BinaryFormat := ⟨53, -1074, 971⟩

def BinaryFormat.single : BinaryFormat := ⟨24, -149, 104⟩

inductive Binary where
  /-- The value that is not a number; it has no sign. -/
  | nan
  /-- One of the two infinities. -/
  | infinite (negative : Bool)
  /-- `± significand * 2 ^ exponent`, zero included. -/
  | finite (negative : Bool) (significand : Nat) (exponent : Int)
  deriving DecidableEq, Repr

namespace BinaryFormat

/-- The least significand of full length: that of a power of two. -/
def leadingBit (fmt : BinaryFormat) : Nat :=
  Nat.pow 2 (fmt.precision - 1)

def zero (fmt : BinaryFormat) (negative : Bool) : Binary :=
  .finite negative 0 fmt.leastExponent

/-- The value of the format nearest to a ratio, ties to the even significand. -/
def round (fmt : BinaryFormat) (negative : Bool) (x : Ratio) : Binary :=
  if x.num = 0 then fmt.zero negative
  else
    let exponent := max fmt.leastExponent (x.floorLog2 - (fmt.precision - 1))
    let significand := (x.scale 2 (-exponent)).halfEven
    -- Rounding up may carry into one more bit, which is then a power of two.
    let carries := significand = 2 * fmt.leadingBit
    let exponent := if carries then exponent + 1 else exponent
    let significand := if carries then fmt.leadingBit else significand
    if fmt.greatestExponent < exponent then .infinite negative
    else .finite negative significand exponent

/-- The value of the format nearest to `digits * 10 ^ exponent`.

A numeral with `n` digits lies below `10 ^ (n + exponent)` and not below a
tenth of it.  A power of ten exceeds the same power of two, and falls short of
it where the exponent is negative, so the two outer cases are decided by the
place of the leading digit alone. -/
def ofDecimal (fmt : BinaryFormat) (negative : Bool) (digits : Nat) (exponent : Int) :
    Binary :=
  let leading : Int := (Nat.toDigits 10 digits).length + exponent
  if digits = 0 then fmt.zero negative
  else if fmt.precision + fmt.greatestExponent < leading then .infinite negative
  else if leading < fmt.leastExponent then fmt.zero negative
  else fmt.round negative ((Ratio.ofNat digits).scale 10 exponent)

end BinaryFormat

end Faults
