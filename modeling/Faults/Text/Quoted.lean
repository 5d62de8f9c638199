import Faults.Text.Basic

/-!
# Quoted text

A quoted text stands between two delimiters and spells some characters by an
escape: a backslash followed by a letter for the null character, the tab, the
return and the newline; a backslash before a backslash and before the
delimiter itself; and a backslash with the number of the character, in
hexadecimal digits between braces, for each hidden character.

Every character is spelled on its own (`spell`), so the spelling of a text is
the concatenation of the spellings (`spellAll`).  Which characters count as
hidden is a parameter, and nothing below depends on the choice: neither the
delimiter nor a newline ever stands bare between the delimiters.
-/

namespace Faults.Quoted

/-- The number of a character in braces, behind a backslash and a `u`. -/
def byNumber (c : Char) : Text :=
  '\\' :: 'u' :: '{' :: Nat.toDigits 16 c.toNat ++ ['}']

/-- The spelling of one character between the given delimiters. -/
def spell (hidden : Char → Bool) (delimiter : Char) (c : Char) : Text :=
  if c = '\x00' then ['\\', '0']
  else if c = '\t' then ['\\', 't']
  else if c = '\r' then ['\\', 'r']
  else if c = '\n' then ['\\', 'n']
  else if c = '\\' ∨ c = delimiter then ['\\', c]
  else if hidden c then byNumber c
  else [c]

/-- The spelling of a text: that of each character in turn. -/
def spellAll (hidden : Char → Bool) (delimiter : Char) (text : Text) : Text :=
  text.flatMap (spell hidden delimiter)

def text (hidden : Char → Bool) (s : Text) : Text :=
  '"' :: spellAll hidden '"' s ++ ['"']

def character (hidden : Char → Bool) (c : Char) : Text :=
  '\'' :: spell hidden '\'' c ++ ['\'']

end Faults.Quoted
