import Faults.Format.Template.Reader

/-!
# Filling templates

A template is filled from a list of arguments and a list of names, the i-th
name standing for the i-th argument.  The pieces are written from left to
right; the only thing carried along is how many arguments have been taken as
the next one.  A width or a precision that is too large is refused even where it would
have no effect.  The text of an argument is never read as a template again.
-/

namespace Faults.Template

variable (hidden : Char → Bool) (names : List String) (arguments : List Argument)

/-- The argument that a reference means when `next` of them have been taken,
and how many have been taken then. -/
def lookup (next : Nat) (reference : Reference) : Except TemplateError (Argument × Nat) :=
  let (position, next) := match reference with
    | .next => (some next, next + 1)
    | .index i => (some i, next)
    | .name s => (names.idxOf? s, next)
  match position.bind (arguments[·]?) with
  | some argument => .ok (argument, next)
  | none => .error (.missing reference)

/-- A width or a precision within the limit. -/
def limited (n : Nat) : Except TemplateError Nat :=
  if n ≤ Count.greatest then .ok n else .error (.countTooLarge n)

def count (next : Nat) : Count → Except TemplateError (Option Nat × Nat)
  | .implied => .ok (none, next)
  | .exactly n => return (some (← limited n), next)
  | .taken reference => do
    let (argument, next) ← lookup names arguments next reference
    match argument.count? with
    | some n => return (some (← limited n), next)
    | none => .error (.notCount reference)

def fillPlaceholder (next : Nat) (p : Placeholder) : Except TemplateError (Text × Nat) := do
  let (width, next) ← count names arguments next p.width
  let (precision, next) ← count names arguments next p.precision
  let (argument, next) ← lookup names arguments next p.argument
  match argument.render? hidden { p.flags with width := width.getD 0, precision } p.style with
  | some text => .ok (text, next)
  | none => .error (.inapplicable p.argument)

/-- The text of pieces when `next` arguments have been taken. -/
def fillFrom (next : Nat) : List Piece → Except TemplateError Text
  | [] => .ok []
  | .literal c :: pieces => (fillFrom next pieces).map (c :: ·)
  | .placeholder p :: pieces => do
    let (text, next) ← fillPlaceholder hidden names arguments next p
    let others ← fillFrom next pieces
    return text ++ others

def fill (template : Text) : Except TemplateError Text := do
  fillFrom hidden names arguments 0 (← read template)

end Faults.Template
