import Faults.Format.Spec
import Faults.Numeral.IntType
import Faults.Numeral.Places

/-!
# Integers under a specification

* `decimal` — the canonical numeral with its sign;
* `radix` — the digits of the two's complement word in another base, never
  with a minus sign, behind a marker such as `0x` with the alternate flag;
* `exponent` — the significant digits with a power of ten.  Without a precision
  the zeros that end the number are left out; with one, the digits are rounded
  from the exact value, ties to even.

Only the last one heeds the precision.
-/

namespace Faults.Format.Integer

def decimal (spec : Spec) (n : Int) : Text :=
  spec.numeric (spec.sign (decide (n < 0))) (Numeral.natural n.natAbs)

/-- The digits of a word in a base, behind the sign and the marker. -/
def radix (spec : Spec) (base : Nat) (marker : Char) (letters : LetterCase) (word : Nat) :
    Text :=
  let digits := Nat.toDigits base word
  spec.numeric (spec.sign false ++ if spec.alternate then ['0', marker] else [])
    (match letters with
      | .lower => digits
      | .upper => digits.map Char.toUpper)

/-- The hexadecimal digits of an integer of a type. -/
def hex (spec : Spec) (letters : LetterCase) (ty : IntType) (n : Int) : Text :=
  radix spec 16 'x' letters (ty.word n)

def exponentMark : LetterCase → Char
  | .lower => 'e'
  | .upper => 'E'

def exponent (spec : Spec) (mark : LetterCase) (n : Int) : Text :=
  let places := match spec.precision with
    | some p => (Ratio.ofNat n.natAbs).significant (p + 1)
    | none => .ofScaled n.natAbs 0
  spec.numeric (spec.sign (decide (n < 0))) (places.scientific (exponentMark mark))

def render (spec : Spec) (style : Style) (ty : IntType) (n : Int) : Text :=
  match style with
  | .plain | .inspect none => decimal spec n
  | .inspect (some letters) | .hex letters => hex spec letters ty n
  | .octal => radix spec 8 'o' .lower (ty.word n)
  | .binary => radix spec 2 'b' .lower (ty.word n)
  | .exponent mark => exponent spec mark n

end Faults.Format.Integer
