/-!
# Texts

A text under construction is a list of characters.  Strings stand only where a
value is kept or handed out; everything between reading and writing works on
lists, so that laws about it are laws about lists.
-/

namespace Faults

/-- A text under construction. -/
abbrev Text := List Char

namespace Text

/-- The longest beginning whose characters satisfy a test, and the rest. -/
def splitWhile (test : Char → Bool) (text : Text) : Text × Text :=
  (text.takeWhile test, text.dropWhile test)

end Text

end Faults
