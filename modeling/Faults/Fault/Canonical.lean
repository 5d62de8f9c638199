import Faults.Fault.Basic
import Faults.Numeral.Reader

/-!
# Reading the canonical text

`Fault.ofCanonical?` takes a canonical text apart.  It accepts the status only
in its canonical numeral: no plus sign, no leading zero, no minus zero, within
the range of a status.  Everything behind the first separator is the message,
whatever it looks like.
-/

namespace Faults

namespace Numeral

/-- Reads an integer of type `ty` written as its canonical numeral. -/
def ofDecimal? (ty : IntType) (text : Text) : Option Int :=
  match readDecimal ty text with
  | .ok n => if decimal n = text then some n else none
  | .error _ => none

end Numeral

namespace Fault

/-- The characters of a numeral, and what follows them. -/
def spanNumeral (text : Text) : Text × Text :=
  text.splitWhile fun c => c.isDigit || c == '-'

def ofCanonicalText? (text : Text) : Option Fault := do
  let rest ← statusLabel.isPrefixOf? text
  let (numeral, rest) := spanNumeral rest
  let status ← Numeral.ofDecimal? .status numeral
  let message ← messageLabel.isPrefixOf? rest
  return ⟨.ofInt status, String.ofList message⟩

/-- The fault with the given canonical text, if there is one. -/
def ofCanonical? (text : String) : Option Fault :=
  ofCanonicalText? text.toList

end Fault

end Faults
