import Faults.Fault.Canonical
import Faults.Proofs.DecimalNumerals
import Mathlib.Data.List.TakeWhile
import Mathlib.Tactic.SplitIfs

/-!
# Reading numerals within a range

`Numeral.accumulate` reads digits onto an accumulator that may never leave the
range of its type, and refuses at the first digit that would make it leave.
Because digits only ever move the accumulator away from zero, this is the same
as reading the whole run of digits without a bound and looking at the range
once: `Numeral.accumulate_eq`.  What stands behind the run is looked at only
when its value lies in the range.

* `Numeral.accumulate_eq` — the accumulator against the value of the run;
* `Numeral.readDecimal_decimal` — the numeral of an integer of a type is read
  back as that integer, the least value of a signed type included, whose
  magnitude does not fit;
* `Numeral.ofDecimal?_eq_some_iff` — reading canonical numerals alone is the
  exact inverse of writing them.
-/

namespace Faults

namespace IntType

theorem holds_zero (ty : IntType) : ty.Holds 0 := by
  cases ty with
  | signed b =>
      have hpos : 0 < words (b - 1) := Nat.pow_pos (by decide)
      simp only [Holds, least, greatest]
      omega
  | unsigned b =>
      have hpos : 0 < words b := Nat.pow_pos (by decide)
      simp only [Holds, least, greatest]
      omega

/-- A type with a negative value is signed. -/
theorem isSigned_of_holds_neg {ty : IntType} {n : Int} (h : ty.Holds n) (hneg : n < 0) :
    ty.isSigned = true := by
  cases ty with
  | signed b => rfl
  | unsigned b =>
      have hleast : (0 : Int) ≤ n := h.1
      omega

end IntType

namespace Numeral

/-- The integer of a magnitude in a direction. -/
def Direction.signed : Direction → Nat → Int
  | .up, n => n
  | .down, n => -n

/-- One more digit in a direction is one more digit of the magnitude. -/
theorem Direction.extend_signed (dir : Direction) (n d : Nat) :
    dir.extend (dir.signed n * 10) d = dir.signed (10 * n + d) := by
  cases dir <;> simp only [extend, signed] <;> omega

theorem Direction.signed_mul (dir : Direction) (n : Nat) :
    dir.signed n * 10 = dir.signed (10 * n) := by
  cases dir <;> simp only [signed] <;> omega

/-- A range around zero that holds a magnitude holds all lesser ones. -/
theorem holds_signed_of_le {ty : IntType} {dir : Direction} {m n : Nat}
    (hn : ty.Holds (dir.signed n)) (hle : m ≤ n) : ty.Holds (dir.signed m) := by
  have hzero := ty.holds_zero
  unfold IntType.Holds at *
  cases dir <;> simp only [Direction.signed] at * <;> omega

theorem Direction.signed_zero (dir : Direction) : dir.signed 0 = 0 := by
  cases dir <;> rfl

/-- Every range holds the value from which an accumulator starts. -/
theorem holds_signed_zero (ty : IntType) (dir : Direction) : ty.Holds (dir.signed 0) := by
  rw [dir.signed_zero]
  exact ty.holds_zero

theorem le_ofDigitChars (digits : Text) (n : Nat) : n ≤ Nat.ofDigitChars 10 digits n := by
  induction digits generalizing n with
  | nil => simp
  | cons c rest ih =>
      rw [Nat.ofDigitChars_cons]
      have hrest := ih (10 * n + (c.toNat - '0'.toNat))
      omega

theorem digit?_of_isDigit {c : Char} (h : c.isDigit) : digit? 10 c = some (c.toNat - 48) := by
  have hlt := (digitChar_of_isDigit h).1
  simp [digit?, h, Option.filter, hlt]

/-- Letters are no decimal digits, and neither is anything else. -/
theorem digit?_of_not_isDigit {c : Char} (h : c.isDigit = false) : digit? 10 c = none := by
  unfold digit?
  simp only [h, Bool.false_eq_true, if_false]
  split_ifs <;> simp [Option.filter]

/-- A digit is taken when its accumulator lies in the range; the check of the
scaled accumulator before it never decides anything by itself. -/
theorem accumulate_digit {ty : IntType} {dir : Direction} {c : Char} (h : c.isDigit)
    (rest : Text) (n : Nat) :
    accumulate ty 10 dir (dir.signed n) (c :: rest) =
      if ty.Holds (dir.signed (10 * n + (c.toNat - 48))) then
        accumulate ty 10 dir (dir.signed (10 * n + (c.toNat - 48))) rest
      else .error dir.overflow := by
  have hunfold : accumulate ty 10 dir (dir.signed n) (c :: rest) =
      if ¬ ty.Holds (dir.signed n * 10) then .error dir.overflow
      else if ¬ ty.Holds (dir.extend (dir.signed n * 10) (c.toNat - 48)) then
        .error dir.overflow
      else accumulate ty 10 dir (dir.extend (dir.signed n * 10) (c.toNat - 48)) rest := by
    rw [accumulate, digit?_of_isDigit h]
    rfl
  rw [hunfold, dir.extend_signed, dir.signed_mul]
  by_cases hnext : ty.Holds (dir.signed (10 * n + (c.toNat - 48)))
  · have hscaled : ty.Holds (dir.signed (10 * n)) := holds_signed_of_le hnext (by omega)
    rw [if_neg (not_not.mpr hscaled), if_neg (not_not.mpr hnext), if_pos hnext]
  · rw [if_pos hnext, if_neg hnext, ite_self]

/-- **The run decides.**  Reading onto an accumulator that lies in the range
refuses exactly when the whole run of digits leads out of the range, and looks
at what stands behind the run only if it does not. -/
theorem accumulate_eq {ty : IntType} {dir : Direction} (text : Text) {n : Nat}
    (hn : ty.Holds (dir.signed n)) :
    accumulate ty 10 dir (dir.signed n) text =
      if ty.Holds (dir.signed (Nat.ofDigitChars 10 (text.takeWhile Char.isDigit) n)) then
        if text.dropWhile Char.isDigit = [] then
          .ok (dir.signed (Nat.ofDigitChars 10 (text.takeWhile Char.isDigit) n))
        else .error .invalidDigit
      else .error dir.overflow := by
  induction text generalizing n with
  | nil => simp [accumulate, hn]
  | cons c rest ih =>
      by_cases hc : c.isDigit
      · -- The run goes on, and its value bounds the accumulator after this digit.
        have hrun : (c :: rest).takeWhile Char.isDigit = c :: rest.takeWhile Char.isDigit :=
          List.takeWhile_cons_of_pos hc
        have hbehind : (c :: rest).dropWhile Char.isDigit = rest.dropWhile Char.isDigit :=
          List.dropWhile_cons_of_pos hc
        rw [accumulate_digit hc, hrun, hbehind, Nat.ofDigitChars_cons]
        show _ = if ty.Holds (dir.signed (Nat.ofDigitChars 10 _ (10 * n + (c.toNat - 48))))
          then _ else _
        by_cases hnext : ty.Holds (dir.signed (10 * n + (c.toNat - 48)))
        · rw [if_pos hnext, ih hnext]
          rfl
        · have hout : ¬ ty.Holds (dir.signed (Nat.ofDigitChars 10
              (rest.takeWhile Char.isDigit) (10 * n + (c.toNat - 48)))) :=
            fun h => hnext (holds_signed_of_le h (le_ofDigitChars _ _))
          rw [if_neg hnext, if_neg hout]
      · -- The run ends: nothing was added, so the value is the accumulator.
        have hc' : c.isDigit = false := by simpa using hc
        rw [accumulate, digit?_of_not_isDigit hc']
        simp [hc', hn]

/-- Digits alone are read as their value, if it lies in the range. -/
theorem accumulate_digits {ty : IntType} {dir : Direction} {digits : Text}
    (hdigits : ∀ c ∈ digits, c.isDigit)
    (hvalue : ty.Holds (dir.signed (Nat.ofDigitChars 10 digits 0))) :
    accumulate ty 10 dir 0 digits = .ok (dir.signed (Nat.ofDigitChars 10 digits 0)) := by
  have hread := accumulate_eq digits (holds_signed_zero ty dir)
  rw [List.takeWhile_eq_self_iff.mpr hdigits, List.dropWhile_eq_nil_iff.mpr hdigits,
    if_pos hvalue, if_pos rfl, dir.signed_zero] at hread
  exact hread

/-! ## Reading back what was written -/

/-- Digits without a sign are accumulated upwards. -/
theorem read_of_isPlain {ty : IntType} {digits : Text} (h : IsPlain digits) :
    read ty 10 digits = accumulate ty 10 .up 0 digits := by
  have hplus : ∀ rest, digits ≠ '+' :: rest := by
    rintro rest rfl
    exact absurd (h.isDigit '+' List.mem_cons_self) (by decide)
  unfold read
  split
  · exact absurd rfl h.nonempty
  · exact absurd rfl (hplus _)
  · exact absurd rfl (h.ne_minus_cons _)
  · exact absurd rfl (hplus _)
  · exact absurd rfl (h.ne_minus_cons _)
  · rfl

/-- Digits behind a minus sign are accumulated downwards, where the type has
negative values. -/
theorem read_minus_of_isPlain {ty : IntType} {digits : Text} (h : IsPlain digits)
    (hsigned : ty.isSigned = true) :
    read ty 10 ('-' :: digits) = accumulate ty 10 .down 0 digits := by
  cases digits with
  | nil => exact absurd rfl h.nonempty
  | cons c rest => simp only [read, hsigned, if_true]

/-- **The numeral of an integer of a type is read back as that integer.** -/
theorem readDecimal_decimal {ty : IntType} {n : Int} (hn : ty.Holds n) :
    readDecimal ty (decimal n) = .ok n := by
  have hplain := isPlain_natural n.natAbs
  have hdigits := ofDigitChars_natural n.natAbs
  by_cases hneg : n < 0
  · have hvalue : Direction.down.signed n.natAbs = n := by
      simp only [Direction.signed]
      omega
    rw [readDecimal, decimal_of_neg hneg,
      read_minus_of_isPlain hplain (IntType.isSigned_of_holds_neg hn hneg),
      accumulate_digits hplain.isDigit (by rwa [hdigits, hvalue]), hdigits, hvalue]
  · have hvalue : Direction.up.signed n.natAbs = n := by
      simp only [Direction.signed]
      omega
    rw [readDecimal, decimal_of_nonneg (by omega), read_of_isPlain hplain,
      accumulate_digits hplain.isDigit (by rwa [hdigits, hvalue]), hdigits, hvalue]

/-- Reading onto an accumulator in the range ends in the range. -/
theorem holds_of_accumulate {ty : IntType} {dir : Direction} {text : Text} {n : Int}
    (h : accumulate ty 10 dir 0 text = .ok n) : ty.Holds n := by
  rw [← dir.signed_zero, accumulate_eq text (holds_signed_zero ty dir)] at h
  split_ifs at h with hin hend
  · obtain rfl := Except.ok.inj h
    exact hin

/-- An integer that is read is one of its type. -/
theorem holds_of_readDecimal {ty : IntType} {text : Text} {n : Int}
    (h : readDecimal ty text = .ok n) : ty.Holds n := by
  unfold readDecimal read at h
  split at h
  · exact nomatch h
  · exact nomatch h
  · exact nomatch h
  · exact holds_of_accumulate h
  · split_ifs at h
    exact holds_of_accumulate h
  · exact holds_of_accumulate h

/-- **Reading canonical numerals alone is the exact inverse of writing them.** -/
theorem ofDecimal?_eq_some_iff {ty : IntType} {text : Text} {n : Int} :
    ofDecimal? ty text = some n ↔ ty.Holds n ∧ decimal n = text := by
  constructor
  · intro h
    unfold ofDecimal? at h
    split at h
    · next m hread =>
        split_ifs at h with heq
        obtain rfl := Option.some.inj h
        exact ⟨holds_of_readDecimal hread, heq⟩
    · exact nomatch h
  · rintro ⟨hn, rfl⟩
    rw [ofDecimal?, readDecimal_decimal hn]
    exact if_pos rfl

end Numeral

end Faults
