import Faults.Text.Basic

/-!
# UTF-8

Characters and bytes.  `encode` writes each character as one to four bytes.
`decode` reads bytes back one sequence at a time: the leading byte says how
many bytes follow and between which bounds each of them lies, the bounds of
the first one excluding overlong forms, surrogates and numbers beyond the last
plane.

A refusal (`Utf8Error`) names the index of the first sequence that is no
character, and how many of its bytes could have begun one; it names no number
where the input ends inside such a sequence.
-/

namespace Faults

/-- Where and how bytes fail to be UTF-8. -/
structure Utf8Error where
  /-- How many bytes before the failure are well-formed. -/
  validUpTo : Nat
  /-- The length of the longest beginning of a character at the failure, or
  nothing where the input ends inside it. -/
  length : Option Nat
  deriving DecidableEq, Repr

def Utf8Error.message (e : Utf8Error) : String :=
  match e.length with
  | some n => s!"invalid utf-8 sequence of {n} bytes from index {e.validUpTo}"
  | none => s!"incomplete utf-8 byte sequence from index {e.validUpTo}"

namespace Utf8

def encode (text : Text) : List UInt8 :=
  text.flatMap String.utf8EncodeChar

/-- A sequence that has begun: the number read so far, and the bounds of each
byte still owed. -/
structure Pending where
  /-- The number of the character, as far as its bits are known. -/
  number : Nat
  /-- The least and the greatest value of each byte to come. -/
  owed : List (Nat × Nat)
  deriving Repr

/-- The bounds of a byte that follows without further condition. -/
def tail : Nat × Nat := (0x80, 0xbf)

/-- What a leading byte begins, if it can begin a character. -/
def lead? (byte : Nat) : Option Pending :=
  if byte ≤ 0x7f then some ⟨byte, []⟩
  else if 0xc2 ≤ byte ∧ byte ≤ 0xdf then some ⟨byte - 0xc0, [tail]⟩
  else if byte = 0xe0 then some ⟨0, [(0xa0, 0xbf), tail]⟩
  else if byte = 0xed then some ⟨0xd, [(0x80, 0x9f), tail]⟩
  else if 0xe1 ≤ byte ∧ byte ≤ 0xef then some ⟨byte - 0xe0, [tail, tail]⟩
  else if byte = 0xf0 then some ⟨0, [(0x90, 0xbf), tail, tail]⟩
  else if 0xf1 ≤ byte ∧ byte ≤ 0xf3 then some ⟨byte - 0xf0, [tail, tail, tail]⟩
  else if byte = 0xf4 then some ⟨4, [(0x80, 0x8f), tail, tail]⟩
  else none

/-- Reads on.  `start` is the index at which the present sequence begins,
`seen` the number of its bytes read. -/
def decodeFrom (start seen : Nat) (number : Nat) (owed : List (Nat × Nat)) :
    List UInt8 → Except Utf8Error (Text)
  | [] =>
    match owed with
    | [] => .ok []
    | _ :: _ => .error ⟨start, none⟩
  | byte :: rest =>
    match owed with
    | [] =>
      match lead? byte.toNat with
      | none => .error ⟨start, some 1⟩
      | some ⟨number, []⟩ =>
        (decodeFrom (start + 1) 0 0 [] rest).map (Char.ofNat number :: ·)
      | some ⟨number, owed⟩ => decodeFrom start 1 number owed rest
    | (low, high) :: more =>
      if low ≤ byte.toNat ∧ byte.toNat ≤ high then
        let number := number * 0x40 + (byte.toNat - 0x80)
        if more = [] then
          (decodeFrom (start + seen + 1) 0 0 [] rest).map (Char.ofNat number :: ·)
        else decodeFrom start (seen + 1) number more rest
      else .error ⟨start, some seen⟩

def decode (bytes : List UInt8) : Except Utf8Error (Text) :=
  decodeFrom 0 0 0 [] bytes

end Utf8

end Faults
