import Faults.Abort
import Faults.Numeral.IntType
import Faults.Numeral.Decimal

/-!
# Reading integers

An integer of a fixed width is read from left to right into an accumulator
that never leaves the range of its type.  One leading sign is allowed, a minus
only where the type has negative values; a negative number is accumulated
downwards, so that the least value of a signed type can be read although its
magnitude does not fit.

At each character, in this order,

1. the accumulator is scaled by the radix,
2. the character is checked to be a digit (`invalidDigit`),
3. a scaled accumulator outside the range is refused,
4. the digit is added or taken away, and a result outside the range is refused.

The first refusal wins: an overflow hides every character after it, and a
character that is no digit hides the overflow of its own scaling.
-/

namespace Faults

/-- Why a text is no integer of a type. -/
inductive NumeralError where
  | empty
  /-- A character is no digit, or a sign stands alone. -/
  | invalidDigit
  /-- The value lies above the range of the type. -/
  | tooLarge
  /-- The value lies below the range of the type. -/
  | tooSmall
  /-- The value is zero where zero is excluded. -/
  | zero
  deriving DecidableEq, Repr

/-- What is said about a text that is no integer. -/
def NumeralError.message : NumeralError → String
  | empty => "cannot parse integer from empty string"
  | invalidDigit => "invalid digit found in string"
  | tooLarge => "number too large to fit in target type"
  | tooSmall => "number too small to fit in target type"
  | zero => "number would be zero for non-zero type"

namespace Numeral

/-- The value of a digit below `radix`; the letters of either case follow `9`. -/
def digit? (radix : Nat) (c : Char) : Option Nat :=
  let value? :=
    if c.isDigit then some (c.toNat - '0'.toNat)
    else if c.isLower then some (c.toNat - 'a'.toNat + 10)
    else if c.isUpper then some (c.toNat - 'A'.toNat + 10)
    else none
  value?.filter (· < radix)

/-- A base of numerals: there are two digits or more, and no more than the ten
numerals and the 26 letters. -/
structure Radix where
  base : Nat
  /-- One digit is not enough. -/
  two_le : 2 ≤ base
  /-- The letters do not run out. -/
  base_le : base ≤ 36
  deriving DecidableEq, Repr

namespace Radix

/-- The radix of decimal numerals. -/
def ten : Radix := ⟨10, by decide, by decide⟩

/-- The radix with so many digits, or an abort where there is none. -/
def ofNat (n : Nat) : Except Abort Radix :=
  if h : 2 ≤ n ∧ n ≤ 36 then .ok ⟨n, h.1, h.2⟩ else .error (.radixOutOfRange n)

end Radix

/-- Which way an accumulator moves: down behind a minus sign, up otherwise. -/
inductive Direction where
  | up
  | down
  deriving DecidableEq, Repr

namespace Direction

/-- The accumulator after one more digit. -/
def extend (dir : Direction) (scaled : Int) (digit : Nat) : Int :=
  match dir with
  | up => scaled + digit
  | down => scaled - digit

/-- The refusal of an accumulator that leaves the range. -/
def overflow : Direction → NumeralError
  | up => .tooLarge
  | down => .tooSmall

end Direction

/-- Reads digits onto an accumulator within the range of `ty`. -/
def accumulate (ty : IntType) (radix : Nat) (dir : Direction) :
    Int → Text → Except NumeralError Int
  | acc, [] => .ok acc
  | acc, c :: rest =>
    let scaled := acc * radix
    match digit? radix c with
    | none => .error .invalidDigit
    | some digit =>
      if ¬ ty.Holds scaled then .error dir.overflow
      else if ¬ ty.Holds (dir.extend scaled digit) then .error dir.overflow
      else accumulate ty radix dir (dir.extend scaled digit) rest

/-- Reads an integer of type `ty` in the given radix. -/
def read (ty : IntType) (radix : Nat) : Text → Except NumeralError Int
  | [] => .error .empty
  | ['+'] => .error .invalidDigit
  | ['-'] => .error .invalidDigit
  | '+' :: digits => accumulate ty radix .up 0 digits
  | '-' :: digits =>
    if ty.isSigned then accumulate ty radix .down 0 digits
    else .error .invalidDigit
  | digits => accumulate ty radix .up 0 digits

/-- Reads a decimal integer of type `ty`. -/
def readDecimal (ty : IntType) (text : Text) : Except NumeralError Int :=
  read ty 10 text

/-- Reads a decimal integer of type `ty` other than zero. -/
def readNonzero (ty : IntType) (text : Text) : Except NumeralError Int :=
  match readDecimal ty text with
  | .ok 0 => .error .zero
  | other => other

end Numeral

/-- Why an integer does not convert to a type: it lies above or below its range. -/
inductive RangeError where
  | tooLarge
  | tooSmall
  deriving DecidableEq, Repr

def RangeError.message : RangeError → String
  | tooLarge => NumeralError.tooLarge.message
  | tooSmall => NumeralError.tooSmall.message

/-- An integer as a value of `ty`, if it lies in the range. -/
def IntType.convert (ty : IntType) (n : Int) : Except RangeError Int :=
  if ty.greatest < n then .error .tooLarge
  else if n < ty.least then .error .tooSmall
  else .ok n

/-- The character with the given number, unless it is a surrogate or lies
beyond the last plane. -/
def charOfNumber? (n : Nat) : Option Char :=
  if n.isValidChar then some (Char.ofNat n) else none

end Faults
