import Faults.Tagging.Failure
import Faults.Format.Real

/-!
# Operations that may fail

An `Attempt` is an operation with its input: reading a number, a truth value or
a character from a text, converting an integer, decoding bytes.  `Attempt.run`
carries it out and yields a `Success` or a `Failure`.
-/

namespace Faults

/-- What an operation yields when it succeeds. -/
inductive Success where
  | integer (n : Int)
  | real (fmt : BinaryFormat) (x : Binary)
  | truth (b : Bool)
  | character (c : Char)
  | text (s : String)
  /-- Bytes without a null byte, to be ended by one. -/
  | octets (bytes : List UInt8)
  | unit
  | fault (e : Fault)
  deriving DecidableEq, Repr

namespace Success

/-- A byte as two hexadecimal digits behind a backslash and an `x`. -/
def spellByte (b : UInt8) : Text :=
  ['\\', 'x', Nat.digitChar (b.toNat / 16), Nat.digitChar (b.toNat % 16)]

/-- The spelling of one character of a string of bytes: quotes of both kinds
are escaped, and the controls are spelled as bytes. -/
def spellInBytes (c : Char) : Text :=
  if c = '\x00' then ['\\', '0']
  else if c = '\t' then ['\\', 't']
  else if c = '\r' then ['\\', 'r']
  else if c = '\n' then ['\\', 'n']
  else if c = '\\' ∨ c = '\x22' ∨ c = '\x27' then ['\\', c]
  else if c.toNat < 0x20 ∨ c.toNat = 0x7f then spellByte (.ofNat c.toNat)
  else if isHidden c then Quoted.byNumber c
  else [c]

/-- A string of bytes between double quotes.  What is UTF-8 is written as
characters, and the bytes of each sequence that is not are written as numbers.
The fuel is the number of bytes. -/
def inspectBytes : (fuel : Nat) → List UInt8 → Text
  | 0, _ => []
  | fuel + 1, bytes =>
    match Utf8.decode bytes with
    | .ok chars => chars.flatMap spellInBytes
    | .error e =>
      let valid := match Utf8.decode (bytes.take e.validUpTo) with
        | .ok chars => chars.flatMap spellInBytes
        | .error _ => []
      let rest := bytes.drop e.validUpTo
      let broken := max 1 (e.length.getD rest.length)
      valid ++ (rest.take broken).flatMap spellByte ++ inspectBytes fuel (rest.drop broken)

def inspect : Success → Text
  | integer n => Numeral.decimal n
  | real fmt x => (Format.Real.render? {} (.inspect none) fmt x).getD []
  | truth b => if b then "true".toList else "false".toList
  | character c => Quoted.character isHidden c
  | text s => Quoted.text isHidden s.toList
  | octets bytes => '\x22' :: inspectBytes (bytes.length + 1) bytes ++ ['\x22']
  | unit => "()".toList
  | fault e => e.inspect isHidden {} none

end Success

/-- An operation that may fail, with its input. -/
inductive Attempt where
  | integer (ty : IntType) (radix : Numeral.Radix) (text : String)
  | nonzero (ty : IntType) (text : String)
  | real (fmt : BinaryFormat) (text : String)
  | truth (text : String)
  | character (text : String)
  | convert (ty : IntType) (n : Int)
  | characterOf (n : Nat)
  | utf8 (bytes : List UInt8)
  /-- Decoding bytes that are handed over and come back with the failure. -/
  | utf8Of (bytes : List UInt8)
  | nullEnded (bytes : List UInt8)
  | succeed (value : Success)
  | fail (failure : Failure)
  deriving DecidableEq, Repr

namespace Attempt

/-- Reads a truth value: one of two words, and nothing around it. -/
def readTruth (text : String) : Except Failure Success :=
  if text = "true" then .ok (.truth true)
  else if text = "false" then .ok (.truth false)
  else .error .truth

/-- Reads a text of exactly one character. -/
def readCharacter (text : String) : Except Failure Success :=
  match text.toList with
  | [] => .error (.character .empty)
  | [c] => .ok (.character c)
  | _ => .error (.character .several)

def run : Attempt → Except Failure Success
  | integer ty radix text =>
    ((Numeral.read ty radix.base text.toList).map .integer).mapError .numeral
  | nonzero ty text => ((Numeral.readNonzero ty text.toList).map .integer).mapError .numeral
  | real fmt text => ((Binary.read fmt text.toList).map (.real fmt)).mapError .literal
  | truth text => readTruth text
  | character text => readCharacter text
  | convert ty n => ((ty.convert n).map .integer).mapError .range
  | characterOf n =>
    match charOfNumber? n with
    | some c => .ok (.character c)
    | none => .error .characterNumber
  | utf8 bytes => ((Utf8.decode bytes).map (.text ∘ String.ofList)).mapError .utf8
  | utf8Of bytes =>
    ((Utf8.decode bytes).map (.text ∘ String.ofList)).mapError (.utf8Of bytes)
  | nullEnded bytes =>
    match bytes.findIdx? (· = 0) with
    | some position => .error (.innerNull position bytes)
    | none => .ok (.octets bytes)
  | succeed value => .ok value
  | fail failure => .error failure

end Attempt

end Faults
