import Faults.Fault.Basic
import Faults.Numeral.Reader

/-!
# Boxed failures

A failure of unknown kind travels in a box.  A box can be asked whether a fault
is directly inside, and a box in the guise of an input or output failure can be
asked whether a fault stands behind the guise.  No box names a cause of its own.
-/

namespace Faults

/-- A failure of some kind. -/
inductive Boxed where
  | fault (e : Fault)
  /-- A box with a fault, boxed again. -/
  | again (e : Fault)
  /-- A fault in the guise of an input or output failure. -/
  | deviceFault (e : Fault)
  /-- A text in the guise of an input or output failure. -/
  | deviceText (s : String)
  | text (s : String)
  /-- The failure of formatting an argument. -/
  | formatting
  /-- A text that is no integer. -/
  | numeral (error : NumeralError)
  deriving DecidableEq, Repr

namespace Boxed

def fault? : Boxed → Option Fault
  | fault e => some e
  | _ => none

/-- The fault behind the guise of an input or output failure. -/
def deviceFault? : Boxed → Option Fault
  | deviceFault e => some e
  | _ => none

/-- The text of the failure in a box. -/
def display : Boxed → String
  | fault e => e.canonical
  | again e => e.canonical
  | deviceFault e => e.canonical
  | deviceText s => s
  | text s => s
  | formatting => "an error occurred when formatting an argument"
  | numeral error => error.message

end Boxed

end Faults
