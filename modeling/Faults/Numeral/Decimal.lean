import Faults.Text.Basic

/-!
# Decimal numerals

The canonical numeral of an integer: its digits in base ten without leading
zeros, after a minus sign if it is negative.  Zero is `0`, never `-0`.
-/

namespace Faults.Numeral

/-- The digits of a natural number in base ten, without leading zeros. -/
def natural (n : Nat) : Text :=
  Nat.toDigits 10 n

/-- The canonical decimal numeral of an integer. -/
def decimal (n : Int) : Text :=
  if n < 0 then '-' :: natural n.natAbs else natural n.natAbs

end Faults.Numeral
