import Faults.Tagging.Stage

/-!
# Tagging one item after another

Texts are read as integers one after another, each reading with a status of its
own: the first with a base status, each following one with the next status,
wrapping round at the end of their range.  The first failure ends it.
-/

namespace Faults

/-- The integers read before the first failure, and the fault of that failure. -/
structure Readings where
  done : List Int
  /-- The fault that ended the reading, if one did. -/
  stopped : Option Fault
  deriving DecidableEq, Repr

/-- Reads an integer and gives a failure the status. -/
def readTagged (status : Int32) (text : String) : Except Fault Int :=
  match Numeral.readDecimal .status text.toList with
  | .ok n => .ok n
  | .error error => .error ⟨status, error.message⟩

/-- Reads texts one after another, giving the first failure the status of its place. -/
def readInTurn (status : Int32) : List String → Readings
  | [] => ⟨[], none⟩
  | text :: texts =>
    match readTagged status text with
    | .error e => ⟨[], some e⟩
    | .ok n =>
      let later := readInTurn (status + 1) texts
      ⟨n :: later.done, later.stopped⟩

end Faults
