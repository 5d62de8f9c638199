import Faults.Text.Basic

/-!
# Format specifications

A placeholder asks for its argument in a `Style` and under a `Spec`: a fill,
an alignment, flags, a least width and a precision.  The specification acts on
text in two ways.

* `Spec.textual` — words and characters are cut to the precision and padded to
  the width, on the right unless the alignment says otherwise;
* `Spec.numeric` — numbers are padded to the width on the left unless the
  alignment says otherwise, or, with the zero flag, by zeros between the sign
  and the digits, whatever the fill and the alignment.

Widths count characters.
-/

namespace Faults

/-- Where a text stands among its padding. -/
inductive Align where
  | left
  | centre
  | right
  deriving DecidableEq, Repr

/-- The case of the letters among hexadecimal digits, or of an exponent mark. -/
inductive LetterCase where
  | lower
  | upper
  deriving DecidableEq, Repr

/-- In what form a placeholder asks for its argument. -/
inductive Style where
  /-- The text meant for readers. -/
  | plain
  /-- The text that shows a value's structure; with a letter case, its integers
  are hexadecimal. -/
  | inspect (hex : Option LetterCase)
  /-- Hexadecimal digits of the two's complement word. -/
  | hex (letters : LetterCase)
  /-- Octal digits of the two's complement word. -/
  | octal
  /-- Binary digits of the two's complement word. -/
  | binary
  /-- One digit before the point and a power of ten. -/
  | exponent (mark : LetterCase)
  deriving DecidableEq, Repr

/-- The flags and sizes of a placeholder. -/
structure Spec where
  fill : Char := ' '
  align : Option Align := none
  /-- Whether a number that is not negative shows a plus sign. -/
  plus : Bool := false
  /-- Whether a radix marker, or the expanded layout of a structure, is asked for. -/
  alternate : Bool := false
  /-- Whether zeros pad a number behind its sign. -/
  zeroPad : Bool := false
  /-- The least number of characters. -/
  width : Nat := 0
  precision : Option Nat := none
  deriving DecidableEq, Repr, Inhabited

namespace Spec

/-- Pads a text to the width; centred text has the larger half behind it. -/
def pad (spec : Spec) (default : Align) (text : Text) : Text :=
  let missing := spec.width - text.length
  let before := match spec.align.getD default with
    | .left => 0
    | .centre => missing / 2
    | .right => missing
  List.replicate before spec.fill ++ text ++ List.replicate (missing - before) spec.fill

/-- Words and characters under a specification. -/
def textual (spec : Spec) (text : Text) : Text :=
  spec.pad .left (match spec.precision with
    | some p => text.take p
    | none => text)

def sign (spec : Spec) (negative : Bool) : Text :=
  if negative then ['-'] else if spec.plus then ['+'] else []

/-- A number under a specification, from what stands before its digits and the
digits themselves. -/
def numeric (spec : Spec) (lead digits : Text) : Text :=
  if spec.zeroPad then
    lead ++ List.replicate (spec.width - (lead.length + digits.length)) '0' ++ digits
  else spec.pad .right (lead ++ digits)

end Spec

end Faults
