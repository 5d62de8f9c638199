import Faults.Binary.Basic
import Faults.Text.Basic

/-!
# Reading floating-point numbers

A floating-point literal is an optional sign followed by

* a numeral: digits with at most one point among, before or behind them, at
  least one digit in all, and optionally an exponent, which is the letter `e`
  of either case, an optional sign and at least one digit; or
* one of the words `inf`, `infinity` and `nan`, in any mixture of cases.

Nothing else may stand in the text, no blank and no separator.  The numeral is
rounded once, from its exact value.
-/

namespace Faults

/-- Why a text is no floating-point literal. -/
inductive LiteralError where
  | empty
  /-- The text is not of the form of a literal. -/
  | invalid
  deriving DecidableEq, Repr

def LiteralError.message : LiteralError → String
  | empty => "cannot parse float from empty string"
  | invalid => "invalid float literal"

namespace Binary

/-- The value of an exponent: an optional sign and at least one digit. -/
def exponentValue? (text : Text) : Option Int :=
  let (negative, digits) := match text with
    | '-' :: rest => (true, rest)
    | '+' :: rest => (false, rest)
    | rest => (false, rest)
  if digits ≠ [] ∧ digits.all Char.isDigit then
    let n : Int := Nat.ofDigitChars 10 digits 0
    some (if negative then -n else n)
  else none

/-- The digits of an unsigned numeral as a natural number, and the power of
ten that goes with them. -/
def numeral? (text : Text) : Option (Nat × Int) :=
  let (whole, rest) := text.splitWhile Char.isDigit
  let (behind, rest) := match rest with
    | '.' :: rest => Text.splitWhile Char.isDigit rest
    | _ => ([], rest)
  let digits := whole ++ behind
  if digits = [] then none
  else
    let exponent? := match rest with
      | [] => some 0
      | c :: rest => if c = 'e' ∨ c = 'E' then exponentValue? rest else none
    exponent?.map fun e => (Nat.ofDigitChars 10 digits 0, e - behind.length)

/-- Reads an unsigned literal and gives it a sign. -/
def readUnsigned (fmt : BinaryFormat) (negative : Bool) (text : Text) :
    Except LiteralError Binary :=
  match numeral? text with
  | some (digits, exponent) => .ok (fmt.ofDecimal negative digits exponent)
  | none =>
    let word := String.ofList (text.map Char.toLower)
    if word = "inf" ∨ word = "infinity" then .ok (.infinite negative)
    else if word = "nan" then .ok .nan
    else .error .invalid

/-- Reads a floating-point literal of the given format. -/
def read (fmt : BinaryFormat) : Text → Except LiteralError Binary
  | [] => .error .empty
  | '-' :: rest => readUnsigned fmt true rest
  | '+' :: rest => readUnsigned fmt false rest
  | text => readUnsigned fmt false text

end Binary

end Faults
