import Faults.Format.Integer
import Faults.Binary.Shortest

/-!
# Floating-point numbers under a specification

Without a precision a number is written with its shortest digits, with one it
is rounded from its exact value, ties to even.

* The plain style is positional, however large or small the number.
* The inspecting style shows a point in every finite number, and goes over to
  a power of ten below `10 ^ -4` and from `10 ^ 16` on (`positionalFrom`,
  `positionalBelow`), unless a precision is given.
* The exponent style has one digit before the point.

Minus zero keeps its sign; the value that is not a number never has one.  The
zero flag pads the words `NaN` and `inf` like digits.
-/

namespace Faults.Format.Real

/-- The least power of ten of a leading digit that is inspected positionally. -/
def positionalFrom : Int := -4

/-- The first power of ten of a leading digit that is no longer inspected positionally. -/
def positionalBelow : Int := 16

/-- Shortest digits for inspection: a point in every number, a power of ten far
from one. -/
def inspected (places : Places) : Text :=
  if places.exponent < positionalFrom ∨ positionalBelow ≤ places.exponent then
    places.scientific 'e'
  else if places.isIntegral then places.positional ++ ['.', '0']
  else places.positional

/-- The digits of a number without its sign, or the word that stands for them,
where the style applies. -/
def body? (spec : Spec) (style : Style) (fmt : BinaryFormat) (x : Binary) : Option Text :=
  match style, x with
  | .hex _, _ | .octal, _ | .binary, _ => none
  | _, .nan => some "NaN".toList
  | _, .infinite _ => some "inf".toList
  | .plain, .finite _ significand exponent => some (match spec.precision with
    | some p => (BinaryFormat.exact significand exponent).fixed p
    | none => (fmt.shortest significand exponent).positional)
  | .inspect _, .finite _ significand exponent => some (match spec.precision with
    | some p => (BinaryFormat.exact significand exponent).fixed p
    | none => inspected (fmt.shortest significand exponent))
  | .exponent mark, .finite _ significand exponent => some ((match spec.precision with
    | some p => (BinaryFormat.exact significand exponent).significant (p + 1)
    | none => fmt.shortest significand exponent).scientific (Integer.exponentMark mark))

/-- The sign of a number; the value that is not a number has none. -/
def sign (spec : Spec) : Binary → Text
  | .nan => []
  | .infinite negative => spec.sign negative
  | .finite negative _ _ => spec.sign negative

/-- A floating-point number in a given style, where the style applies. -/
def render? (spec : Spec) (style : Style) (fmt : BinaryFormat) (x : Binary) : Option Text :=
  (body? spec style fmt x).map (spec.numeric (sign spec x))

end Faults.Format.Real
