import Faults.Format.Argument

/-!
# Templates

A template is a text with placeholders.  Read, it is a list of pieces: literal
characters, and placeholders that name an argument and say how to write it.

A placeholder refers to its argument by position, by name, or as the next one:
the k-th reference to the next argument takes argument k, whatever other
references stand around it.  Its width and its precision are given in the
template or by an argument; a precision may also come from the next argument,
which is then taken before the value.  Neither may exceed `Count.greatest`.

`Piece.spell` is the way back from pieces to the template's text, for literal
characters and for placeholders that ask for nothing but the plain text: a
brace that is meant literally is written twice.
-/

namespace Faults

/-- How a placeholder refers to an argument. -/
inductive Reference where
  /-- The next argument that is not yet taken. -/
  | next
  /-- The argument at a position, counted from zero. -/
  | index (i : Nat)
  | name (s : String)
  deriving DecidableEq, Repr

/-- How a width or a precision is given. -/
inductive Count where
  | implied
  | exactly (n : Nat)
  | taken (argument : Reference)
  deriving DecidableEq, Repr

def Count.greatest : Nat := 65535

structure Placeholder where
  argument : Reference := .next
  style : Style := .plain
  /-- The flags; the width and the precision are not among them. -/
  flags : Spec := {}
  width : Count := .implied
  precision : Count := .implied
  deriving DecidableEq, Repr

inductive Piece where
  /-- A character that stands for itself. -/
  | literal (c : Char)
  /-- A place for an argument. -/
  | placeholder (p : Placeholder)
  deriving DecidableEq, Repr

/-- Why a template cannot be read or filled. -/
inductive TemplateError where
  | unclosed
  | unopened
  /-- The inside of a placeholder is not of the form of one. -/
  | malformed (body : String)
  /-- There is no argument of this position or name. -/
  | missing (argument : Reference)
  /-- The argument that should give a width or a precision is no count. -/
  | notCount (argument : Reference)
  /-- A width or a precision exceeds the greatest one. -/
  | countTooLarge (n : Nat)
  /-- The argument has no text in the style asked for. -/
  | inapplicable (argument : Reference)
  deriving DecidableEq, Repr

namespace Reference

def text : Reference → Text
  | next => []
  | index i => Numeral.natural i
  | name s => s.toList

end Reference

def TemplateError.message : TemplateError → String
  | unclosed => "a placeholder is not closed"
  | unopened => "a closing brace stands alone"
  | malformed body => "malformed placeholder " ++ body
  | missing argument => "no argument " ++ String.ofList argument.text
  | notCount argument => "not a count: argument " ++ String.ofList argument.text
  | countTooLarge n => "the count is too large: " ++ String.ofList (Numeral.natural n)
  | inapplicable argument =>
    "the style does not apply to argument " ++ String.ofList argument.text

namespace Piece

/-- A placeholder that asks for the plain text of its argument. -/
def plain (argument : Reference) : Piece :=
  placeholder { argument }

/-- A literal character as it is written in a template: a brace is doubled. -/
def spellLiteral (c : Char) : Text :=
  if c = '{' ∨ c = '}' then [c, c] else [c]

/-- A reference between the braces of a placeholder. -/
def spellReference (argument : Reference) : Text :=
  '{' :: argument.text ++ ['}']

end Piece

end Faults
