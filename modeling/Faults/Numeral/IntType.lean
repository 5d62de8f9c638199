/-!
# Integer types

The integers that a message may carry come in fixed widths, signed and
unsigned.  An `IntType` is a signedness with a number of bits; the value
itself stays an unbounded `Int`, and the type says

* `least` / `greatest` — where its range begins and ends;
* `Holds` — which integers lie in that range;
* `word` — the two's complement word of an integer at that width, which is
  what the hexadecimal, octal and binary renderings show.

Nothing below fixes the widths to a list: every number of bits is a type.
-/

namespace Faults

/-- A fixed-width integer type: signed or unsigned, of some number of bits. -/
inductive IntType where
  /-- Two's complement of the given width. -/
  | signed (bits : Nat)
  /-- The naturals that have a word of the given width. -/
  | unsigned (bits : Nat)
  deriving DecidableEq, Repr

namespace IntType

/-- The number of bits. -/
def bits : IntType → Nat
  | signed b => b
  | unsigned b => b

/-- Whether negative values exist, so that a minus sign may be read. -/
def isSigned : IntType → Bool
  | signed _ => true
  | unsigned _ => false

/-- How many words there are of so many bits. -/
def words (bits : Nat) : Nat :=
  Nat.pow 2 bits

/-- The least value of the type. -/
def least : IntType → Int
  | signed b => -(words (b - 1) : Int)
  | unsigned _ => 0

/-- The greatest value of the type. -/
def greatest : IntType → Int
  | signed b => words (b - 1) - 1
  | unsigned b => words b - 1

/-- The integers of the type: those between `least` and `greatest`. -/
def Holds (ty : IntType) (n : Int) : Prop :=
  ty.least ≤ n ∧ n ≤ ty.greatest

instance (ty : IntType) (n : Int) : Decidable (ty.Holds n) :=
  inferInstanceAs (Decidable (_ ∧ _))

/-- The two's complement word of `n` at the width of the type. -/
def word (ty : IntType) (n : Int) : Nat :=
  (n % words ty.bits).toNat

/-- The type of widths, precisions and other counts: unsigned, 64 bits. -/
def count : IntType := .unsigned 64

/-- The type of a status: signed, 32 bits. -/
def status : IntType := .signed 32

end IntType

end Faults
