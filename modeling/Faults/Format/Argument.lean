import Faults.Fault.Inspect
import Faults.Format.Real

/-!
# Format arguments

An argument of a template is a scalar, an optional scalar or a list of
scalars; a fault is a scalar.  `render?` gives the text of an argument in a
style and under a specification, or nothing where the style does not apply:

* every scalar has a plain text and an inspecting one;
* words, characters and truth values have no other;
* the radix styles apply to integers, the exponent style to all numbers;
* optional values and lists can only be inspected.

The plain text of a fault is its canonical text, whatever the specification.
-/

namespace Faults

inductive Scalar where
  | integer (ty : IntType) (value : Int)
  | real (fmt : BinaryFormat) (value : Binary)
  | character (c : Char)
  | truth (b : Bool)
  | text (s : String)
  | fault (e : Fault)
  deriving DecidableEq, Repr

inductive Argument where
  | scalar (x : Scalar)
  | option (x : Option Scalar)
  | list (xs : List Scalar)
  deriving DecidableEq, Repr

namespace Scalar

def word (b : Bool) : Text :=
  if b then "true".toList else "false".toList

def render? (hidden : Char → Bool) (spec : Spec) (style : Style) : Scalar → Option Text
  | integer ty n => some (Format.Integer.render spec style ty n)
  | real fmt x => Format.Real.render? spec style fmt x
  | character c =>
    match style with
    | .plain => some (spec.textual [c])
    | .inspect _ => some (Quoted.character hidden c)
    | _ => none
  | truth b =>
    match style with
    | .plain | .inspect _ => some (spec.textual (word b))
    | _ => none
  | text s =>
    match style with
    | .plain => some (spec.textual s.toList)
    | .inspect _ => some (Quoted.text hidden s.toList)
    | _ => none
  | fault e =>
    match style with
    | .plain => some e.canonicalText
    | .inspect hex => some (e.inspect hidden spec hex)
    | _ => none

end Scalar

namespace Argument

def render? (hidden : Char → Bool) (spec : Spec) (style : Style) : Argument → Option Text
  | scalar x => x.render? hidden spec style
  | option none =>
    match style with
    | .inspect _ => some (Layout.option spec.alternate none)
    | _ => none
  | option (some x) =>
    match style with
    | .inspect _ =>
      (x.render? hidden spec style).map fun text => Layout.option spec.alternate (some text)
    | _ => none
  | list xs =>
    match style with
    | .inspect _ => (xs.mapM (Scalar.render? hidden spec style)).map (Layout.list spec.alternate)
    | _ => none

/-- The plain text of an argument, without padding, if it has one. -/
def display? : Argument → Option Text :=
  render? (fun _ => false) {} .plain

/-- The number that an argument gives to a width or a precision. -/
def count? : Argument → Option Nat
  | scalar (.integer ty n) => if ty = .count ∧ 0 ≤ n then some n.toNat else none
  | _ => none

end Argument

end Faults
