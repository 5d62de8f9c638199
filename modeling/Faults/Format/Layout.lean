import Faults.Text.Basic

/-!
# Layouts of structured values

A structured value is written around the texts of its parts, in one of two
layouts: compact, on one line, or expanded, with each part on lines of its own
and a comma behind it.  In the expanded layout the text of a part is indented by four
spaces at the start of each of its lines, blank ones included.

* `record` — `Name { field: value, … }`;
* `tuple` — `Name(value, …)`;
* `list` — `[value, …]`, and `[]` in either layout when it is empty.
-/

namespace Faults.Layout

/-- Indents from within a line, or from the start of one. -/
def indentFrom : (atStart : Bool) → Text → Text
  | _, [] => []
  | true, c :: rest => ' ' :: ' ' :: ' ' :: ' ' :: c :: indentFrom (c == '\n') rest
  | false, c :: rest => c :: indentFrom (c == '\n') rest

/-- Puts four spaces at the start of each line. -/
def indent (text : Text) : Text :=
  indentFrom true text

/-- A part of an expanded value, on lines of its own. -/
def entry (text : Text) : Text :=
  indent (text ++ [',', '\n'])

/-- A field: its name and the text of its value. -/
def field (name : String) (value : Text) : Text :=
  name.toList ++ ':' :: ' ' :: value

def record (expanded : Bool) (name : String) (fields : List (String × Text)) : Text :=
  let parts := fields.map fun (name, value) => field name value
  if expanded then name.toList ++ " \x7b\n".toList ++ parts.flatMap entry ++ ['}']
  else name.toList ++ " \x7b ".toList ++ [',', ' '].intercalate parts ++ " \x7d".toList

def tuple (expanded : Bool) (name : String) (parts : List Text) : Text :=
  if expanded then name.toList ++ '(' :: '\n' :: parts.flatMap entry ++ [')']
  else name.toList ++ '(' :: [',', ' '].intercalate parts ++ [')']

def list (expanded : Bool) (parts : List Text) : Text :=
  if expanded ∧ parts ≠ [] then '[' :: '\n' :: parts.flatMap entry ++ [']']
  else '[' :: [',', ' '].intercalate parts ++ [']']

/-- A value that may be absent. -/
def option (expanded : Bool) : Option Text → Text
  | none => "None".toList
  | some part => tuple expanded "Some" [part]

end Faults.Layout
