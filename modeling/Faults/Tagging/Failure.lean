import Faults.Fault.Inspect
import Faults.Binary.Reader
import Faults.Numeral.Reader
import Faults.Text.Hidden
import Faults.Text.Utf8

/-!
# Failures

A failure is whatever an operation reports instead of a value.  Two texts of it
matter when it is given a status: the one for readers (`display?`), which some
failures do not have, and the one that shows its structure (`inspect`), which
all of them have, in a compact and in an expanded layout.  `Describable` is that
interface; faults and `Failure`s implement it.
-/

namespace Faults

/-- What can be said about a failure. -/
class Describable (ε : Type) where
  /-- The text for readers, unless displaying the failure itself fails. -/
  display? : ε → Option String
  inspect : (expanded : Bool) → ε → String

/-- Why a text is not a single character. -/
inductive CharacterError where
  | empty
  /-- The text has more than one character. -/
  | several
  deriving DecidableEq, Repr

def CharacterError.message : CharacterError → String
  | empty => "cannot parse char from empty string"
  | several => "too many characters in string"

inductive Failure where
  | numeral (error : NumeralError)
  | literal (error : LiteralError)
  | truth
  | character (error : CharacterError)
  | range (error : RangeError)
  /-- A number belongs to no character. -/
  | characterNumber
  | utf8 (error : Utf8Error)
  /-- Bytes that were to become a string are not UTF-8; they are handed back. -/
  | utf8Of (bytes : List UInt8) (error : Utf8Error)
  /-- Bytes that were to end in a null byte contain one; they are handed back. -/
  | innerNull (position : Nat) (bytes : List UInt8)
  | formatting
  | text (s : String)
  /-- A text in the guise of an input or output failure. -/
  | device (s : String)
  | fault (e : Fault)
  /-- A failure that cannot be displayed, although it claims it can. -/
  | undisplayable
  /-- A numbered failure without a text for readers. -/
  | silent (number : String)
  deriving DecidableEq, Repr

namespace Failure

def kindOfNumeral : NumeralError → String
  | .empty => "Empty"
  | .invalidDigit => "InvalidDigit"
  | .tooLarge => "PosOverflow"
  | .tooSmall => "NegOverflow"
  | .zero => "Zero"

def kindOfLiteral : LiteralError → String
  | .empty => "Empty"
  | .invalid => "Invalid"

def kindOfCharacter : CharacterError → String
  | .empty => "EmptyString"
  | .several => "TooManyChars"

def kindOfRange : RangeError → String
  | .tooLarge => "PosOverflow"
  | .tooSmall => "NegOverflow"

/-- The structure of a failed reading of UTF-8. -/
def inspectUtf8 (expanded : Bool) (e : Utf8Error) : Text :=
  Layout.record expanded "Utf8Error"
    [("valid_up_to", Numeral.natural e.validUpTo),
     ("error_len", Layout.option expanded (e.length.map Numeral.natural))]

/-- A list of bytes as decimal numerals. -/
def inspectBytes (expanded : Bool) (bytes : List UInt8) : Text :=
  Layout.list expanded (bytes.map fun b => Numeral.natural b.toNat)

def display? : Failure → Option String
  | numeral error => some error.message
  | literal error => some error.message
  | truth => some "provided string was not `true` or `false`"
  | character error => some error.message
  | range error => some error.message
  | characterNumber => some "converted integer out of range for `char`"
  | utf8 error => some error.message
  | utf8Of _ error => some error.message
  | innerNull position _ => some s!"nul byte found in provided data at position: {position}"
  | formatting => some "an error occurred when formatting an argument"
  | text s => some s
  | device s => some s
  | fault e => some e.canonical
  | undisplayable => none
  | silent _ => none

def inspect (expanded : Bool) (failure : Failure) : Text :=
  match failure with
  | numeral error =>
    Layout.record expanded "ParseIntError" [("kind", (kindOfNumeral error).toList)]
  | literal error =>
    Layout.record expanded "ParseFloatError" [("kind", (kindOfLiteral error).toList)]
  | truth => "ParseBoolError".toList
  | character error =>
    Layout.record expanded "ParseCharError" [("kind", (kindOfCharacter error).toList)]
  | range error => Layout.tuple expanded "TryFromIntError" [(kindOfRange error).toList]
  | characterNumber => Layout.tuple expanded "CharTryFromError" ["()".toList]
  | utf8 error => inspectUtf8 expanded error
  | utf8Of bytes error =>
    Layout.record expanded "FromUtf8Error"
      [("bytes", inspectBytes expanded bytes), ("error", inspectUtf8 expanded error)]
  | innerNull position bytes =>
    Layout.tuple expanded "NulError"
      [Numeral.natural position, inspectBytes expanded bytes]
  | formatting => "Error".toList
  | text s => Quoted.text isHidden s.toList
  | device s =>
    Layout.record expanded "Custom"
      [("kind", "Other".toList), ("error", Quoted.text isHidden s.toList)]
  | fault e => e.inspect isHidden { alternate := expanded } none
  | undisplayable => "BadDisplay".toList
  | silent number => Layout.tuple expanded "Opaque" [number.toList]

end Failure

instance : Describable Failure where
  display? := Failure.display?
  inspect expanded failure := String.ofList (failure.inspect expanded)

instance : Describable Fault where
  display? e := some e.canonical
  inspect expanded e := String.ofList (e.inspect isHidden { alternate := expanded } none)

end Faults
