import Faults.Binary.Basic
import Faults.Numeral.Places

/-!
# The shortest digits of a binary number

A finite value is written with the fewest decimal digits that read back as the
same value, and of those with the nearest.

The numbers that round to `m * 2 ^ q` form an interval around it: half a place
wide on either side, but only a quarter below a power of two, where the places
become finer; its ends belong to it if `m` is even (`roundsTo`).  On the grid of
decimals with `n` digits only the two neighbours of the value need a test,
because if any point of the grid lies in the interval, so does one of them
(`neighbour?`).  The grids are tried in order of their fineness, and the first one with a
hit wins.  Of two hits on one grid the nearer is taken, and at the same distance
the upper one.
-/

namespace Faults.BinaryFormat

/-- The exact value of `significand * 2 ^ exponent`. -/
def exact (significand : Nat) (exponent : Int) : Ratio :=
  (Ratio.ofNat significand).scale 2 exponent

/-- Whether the gap below `significand * 2 ^ exponent` is half the gap above:
at a power of two, except at the least exponent. -/
def narrowBelow (fmt : BinaryFormat) (significand : Nat) (exponent : Int) : Bool :=
  significand = fmt.leadingBit ∧ fmt.leastExponent < exponent

/-- Whether a ratio rounds to `significand * 2 ^ exponent`. -/
def roundsTo (fmt : BinaryFormat) (significand : Nat) (exponent : Int) (x : Ratio) : Bool :=
  let below := if fmt.narrowBelow significand exponent then 1 else 2
  let lower := exact (4 * significand - below) (exponent - 2)
  let upper := exact (4 * significand + 2) (exponent - 2)
  if significand % 2 = 0 then lower.le x && x.le upper else lower.lt x && x.lt upper

/-- The decimal of `n` digits that stands for the value, if one of its two
neighbours on that grid reads back as the value. -/
def neighbour? (fmt : BinaryFormat) (significand : Nat) (exponent : Int) (n : Nat) :
    Option Places :=
  let value := exact significand exponent
  let unit := value.magnitude - n
  let steps := value.scale 10 (-unit)
  let below := steps.floor
  let readsBack (k : Nat) : Bool :=
    fmt.roundsTo significand exponent ((Ratio.ofNat k).scale 10 unit)
  match readsBack below, readsBack (below + 1) with
  | true, true => some (.ofScaled (if steps.isUpperHalf then below + 1 else below) unit)
  | true, false => some (.ofScaled below unit)
  | false, true => some (.ofScaled (below + 1) unit)
  | false, false => none

/-- Tries the grids of `n` digits, of `n + 1` digits and so on, at most `tries`
of them; if none has a hit, the digits of the last one are cut off. -/
def firstGrid (fmt : BinaryFormat) (significand : Nat) (exponent : Int) :
    (tries n : Nat) → Places
  | 0, n =>
    let value := exact significand exponent
    let unit := value.magnitude - n
    .ofScaled (value.scale 10 (-unit)).floor unit
  | tries + 1, n =>
    match fmt.neighbour? significand exponent n with
    | some places => places
    | none => fmt.firstGrid significand exponent tries (n + 1)

/-- The fewest digits that read back as the value, and of those the nearest.
As many digits as the significand has bits are always enough. -/
def shortest (fmt : BinaryFormat) (significand : Nat) (exponent : Int) : Places :=
  if significand = 0 then .zero
  else fmt.firstGrid significand exponent fmt.precision 1

end Faults.BinaryFormat
