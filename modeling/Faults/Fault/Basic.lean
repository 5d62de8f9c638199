import Faults.Numeral.Decimal

/-!
# Faults

A **fault** is a status code paired with a message for people.  Both are fixed
when the fault is made; equality is equality of both.

* `Fault.canonical` — the text form `errCode: S, errMsg: M`, with the status as
  its canonical decimal numeral and the message as it is, nothing escaped;
* `Fault.ofCanonical?` — reads the text form back.  The status is a numeral,
  so it ends before the first comma, and the message is all that follows the
  first separator.
-/

namespace Faults

structure Fault where
  status : Int32
  /-- The message for people; it may be empty. -/
  message : String
  deriving DecidableEq, Repr, Inhabited

namespace Fault

/-- The fault of a status alone: its message is empty. -/
def ofStatus (status : Int32) : Fault :=
  ⟨status, ""⟩

def parts (e : Fault) : Int32 × String :=
  (e.status, e.message)

/-- What stands before the status. -/
def statusLabel : Text := "errCode: ".toList

/-- What stands between the status and the message. -/
def messageLabel : Text := ", errMsg: ".toList

/-- The canonical text of a fault, as characters. -/
def canonicalText (e : Fault) : Text :=
  statusLabel ++ Numeral.decimal e.status.toInt ++ messageLabel ++ e.message.toList

/-- The canonical text of a fault: `errCode: S, errMsg: M`. -/
def canonical (e : Fault) : String :=
  String.ofList e.canonicalText

end Fault

end Faults
