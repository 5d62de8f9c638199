import Faults.Fault.Basic
import Faults.Format.Integer
import Faults.Format.Layout
import Faults.Text.Quoted

/-!
# Inspecting faults

The inspecting text of a fault shows its two fields,
`Error { status: S, message: M }`.  The specification reaches the status, which
is padded, signed or written in hexadecimal as it asks; the message is quoted
and takes no notice of it; and the alternate flag expands the layout.
-/

namespace Faults.Fault

/-- The inspecting text of a fault under a specification. -/
def inspect (hidden : Char → Bool) (spec : Spec) (hex : Option LetterCase) (e : Fault) : Text :=
  Layout.record spec.alternate "Error"
    [("status", Format.Integer.render spec (.inspect hex) .status e.status.toInt),
     ("message", Quoted.text hidden e.message.toList)]

end Faults.Fault
