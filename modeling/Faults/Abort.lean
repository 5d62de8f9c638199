/-!
# Aborts

Some work ends without any answer.  It is then not a failure, which an operation
reports and a stage can give a status: nothing that stands around the work has an
answer either.  An `Abort` is the reason, and `Abort.message` what is said.
-/

namespace Faults

/-- Why work ended without an answer. -/
inductive Abort where
  /-- A failure that claims a text for readers could not be displayed. -/
  | displayFailed
  /-- Such a failure could not be displayed in the middle of a message. -/
  | insertionFailed
  /-- A width or a precision exceeds the greatest one. -/
  | countTooLarge
  /-- There are no digits for the radix. -/
  | radixOutOfRange (radix : Nat)
  deriving DecidableEq, Repr

def Abort.message : Abort → String
  | displayFailed => "a Display implementation returned an error unexpectedly: Error"
  | insertionFailed =>
    "a formatting trait implementation returned an error when the underlying stream did not: Error"
  | countTooLarge => "Formatting argument out of range"
  | radixOutOfRange radix =>
    "from_ascii_radix: radix must lie in the range `[2, 36]` - found " ++ toString radix

end Faults
