import Faults.Numeral.Decimal
import Faults.Proofs.SelfDelimiting
import Mathlib.Data.List.Basic

/-!
# Decimal numerals

`Numeral.decimal` writes an integer.  This file describes its outputs without
mentioning it: a **shortest numeral** (`Numeral.IsShortest`) is one digit or
more without a leading zero, perhaps behind a minus sign, but never `-0`; and
`Numeral.value` says which integer such a text stands for.

* `Numeral.isShortest_decimal`, `Numeral.value_decimal` — every integer is
  written as a shortest numeral, and one of that integer;
* `Numeral.decimal_value` — **uniqueness**: a shortest numeral is what is
  written for its value, so an integer has no second shortest numeral;
* `Numeral.selfDelimiting_decimal` — ended by a symbol that is neither a digit
  nor a minus sign, numerals are self-delimiting, for all integers at once.
-/

namespace Faults.Numeral

/-- Digits without a leading zero; a zero alone is not leading. -/
structure IsPlain (digits : Text) : Prop where
  /-- There is a digit. -/
  nonempty : digits ≠ []
  /-- There is nothing else. -/
  isDigit : ∀ c ∈ digits, c.isDigit
  /-- A zero comes first only where it is alone. -/
  noLeadingZero : digits.head? = some '0' → digits = ['0']

/-- Digits without a leading zero, or the same behind a minus sign, but for the
zero. -/
def IsShortest : Text → Prop
  | '-' :: digits => IsPlain digits ∧ digits ≠ ['0']
  | digits => IsPlain digits

/-- The integer that a numeral stands for. -/
def value : Text → Int
  | '-' :: digits => -(Nat.ofDigitChars 10 digits 0 : Int)
  | digits => Nat.ofDigitChars 10 digits 0

theorem IsPlain.ne_minus_cons {digits : Text} (h : IsPlain digits) (rest : Text) :
    digits ≠ '-' :: rest := by
  rintro rfl
  exact absurd (h.isDigit '-' List.mem_cons_self) (by decide)

/-- Without a minus sign in front, a shortest numeral is digits alone. -/
theorem isShortest_iff_isPlain {text : Text} (h : ∀ rest, text ≠ '-' :: rest) :
    IsShortest text ↔ IsPlain text := by
  unfold IsShortest
  split
  · exact absurd rfl (h _)
  · rfl

/-- Without a minus sign in front, the value is that of the digits. -/
theorem value_of_ne_minus {text : Text} (h : ∀ rest, text ≠ '-' :: rest) :
    value text = Nat.ofDigitChars 10 text 0 := by
  unfold value
  split
  · exact absurd rfl (h _)
  · rfl

/-! ## Natural numbers -/

theorem isDigit_of_mem_natural {n : Nat} {c : Char} (h : c ∈ natural n) : c.isDigit :=
  Nat.isDigit_of_mem_toDigits (by decide) (by decide) h

theorem natural_ne_nil (n : Nat) : natural n ≠ [] :=
  Nat.toDigits_ne_nil

/-- A digit is the digit of its value. -/
theorem digitChar_of_isDigit {c : Char} (h : c.isDigit) :
    c.toNat - 48 < 10 ∧ Nat.digitChar (c.toNat - 48) = c := by
  have hrange := Char.isDigit_iff_toNat.mp h
  have hbounds : 48 ≤ c.toNat ∧ c.toNat ≤ 57 := hrange
  have hlt : c.toNat - 48 < 10 := by omega
  refine ⟨hlt, Char.toNat_inj.mp ?_⟩
  rw [Nat.toNat_digitChar_of_lt_ten hlt]
  omega

/-- Digits behind a positive number continue its numeral. -/
theorem natural_append_digits {digits : Text} (hdigits : ∀ c ∈ digits, c.isDigit)
    {n : Nat} (hn : 0 < n) :
    natural n ++ digits = natural (Nat.ofDigitChars 10 digits n) := by
  induction digits generalizing n with
  | nil => simp
  | cons c rest ih =>
      obtain ⟨hlt, hchar⟩ := digitChar_of_isDigit (hdigits c List.mem_cons_self)
      have hone : natural n ++ [c] = natural (10 * n + (c.toNat - 48)) := by
        have happend := Nat.toDigits_append_toDigits (b := 10) (by decide) hn hlt
        rwa [Nat.toDigits_of_lt_base hlt, hchar] at happend
      have hrest : ∀ d ∈ rest, d.isDigit := fun d hd => hdigits d (List.mem_cons_of_mem c hd)
      calc natural n ++ c :: rest
          = (natural n ++ [c]) ++ rest := by simp
        _ = natural (10 * n + (c.toNat - 48)) ++ rest := by rw [hone]
        _ = natural (Nat.ofDigitChars 10 rest (10 * n + (c.toNat - 48))) :=
            ih hrest (by omega)
        _ = natural (Nat.ofDigitChars 10 (c :: rest) n) := by rw [Nat.ofDigitChars_cons]; rfl

/-- Digits without a leading zero are the numeral of their value. -/
theorem natural_ofDigitChars {digits : Text} (h : IsPlain digits) :
    natural (Nat.ofDigitChars 10 digits 0) = digits := by
  obtain ⟨hne, hdigits, hzero⟩ := h
  cases digits with
  | nil => exact absurd rfl hne
  | cons c rest =>
      obtain ⟨hlt, hchar⟩ := digitChar_of_isDigit (hdigits c List.mem_cons_self)
      have hcons : Nat.ofDigitChars 10 (c :: rest) 0 =
          Nat.ofDigitChars 10 rest (c.toNat - 48) := by
        rw [Nat.ofDigitChars_cons]
        simp
      by_cases hc : c = '0'
      · -- A leading zero is alone, and then there is nothing to continue.
        subst hc
        have halone := hzero rfl
        rw [halone]
        rfl
      · have hpos : 0 < c.toNat - 48 := by
          rcases Nat.eq_zero_or_pos (c.toNat - 48) with h0 | h0
          · rw [h0] at hchar
            exact absurd hchar.symm hc
          · exact h0
        have hrest : ∀ d ∈ rest, d.isDigit :=
          fun d hd => hdigits d (List.mem_cons_of_mem c hd)
        have hsingle : natural (c.toNat - 48) = [c] := by
          rw [natural, Nat.toDigits_of_lt_base hlt, hchar]
        rw [hcons, ← natural_append_digits hrest hpos, hsingle]
        rfl

theorem ofDigitChars_natural (n : Nat) : Nat.ofDigitChars 10 (natural n) 0 = n :=
  Nat.ofDigitChars_ten_toDigits

/-- Only the zero has a numeral that begins with a zero. -/
theorem eq_zero_of_head?_natural {n : Nat} (h : (natural n).head? = some '0') : n = 0 := by
  induction n using Nat.strongRecOn with
  | ind n ih =>
      by_cases hlt : n < 10
      · rw [natural, Nat.toDigits_of_lt_base hlt] at h
        simpa using h
      · have hsplit : natural n = natural (n / 10) ++ [Nat.digitChar (n % 10)] :=
          Nat.toDigits_of_base_le (by decide) (by omega)
        rw [hsplit, List.head?_append_of_ne_nil _ (natural_ne_nil _)] at h
        have := ih (n / 10) (by omega) h
        omega

/-- The numeral of a natural number has no leading zero. -/
theorem isPlain_natural (n : Nat) : IsPlain (natural n) where
  nonempty := natural_ne_nil n
  isDigit _ := isDigit_of_mem_natural
  noLeadingZero h := by rw [eq_zero_of_head?_natural h]; rfl

/-! ## Integers -/

theorem decimal_of_neg {n : Int} (h : n < 0) : decimal n = '-' :: natural n.natAbs :=
  if_pos h

theorem decimal_of_nonneg {n : Int} (h : 0 ≤ n) : decimal n = natural n.natAbs :=
  if_neg (by omega)

/-- Every integer is written as a shortest numeral. -/
theorem isShortest_decimal (n : Int) : IsShortest (decimal n) := by
  by_cases hneg : n < 0
  · rw [decimal_of_neg hneg]
    refine ⟨isPlain_natural _, fun hzero => ?_⟩
    have hhead : (natural n.natAbs).head? = some '0' := by
      rw [hzero]
      rfl
    have habs : n.natAbs = 0 := eq_zero_of_head?_natural hhead
    omega
  · rw [decimal_of_nonneg (by omega),
      isShortest_iff_isPlain (isPlain_natural _).ne_minus_cons]
    exact isPlain_natural _

/-- What is written for an integer stands for that integer. -/
theorem value_decimal (n : Int) : value (decimal n) = n := by
  by_cases hneg : n < 0
  · rw [decimal_of_neg hneg]
    show -(Nat.ofDigitChars 10 (natural n.natAbs) 0 : Int) = n
    rw [ofDigitChars_natural]
    omega
  · rw [decimal_of_nonneg (by omega),
      value_of_ne_minus (isPlain_natural _).ne_minus_cons, ofDigitChars_natural]
    omega

/-- **Uniqueness.**  A shortest numeral is what is written for its value. -/
theorem decimal_value {text : Text} (h : IsShortest text) : decimal (value text) = text := by
  by_cases hminus : ∃ digits, text = '-' :: digits
  · obtain ⟨digits, rfl⟩ := hminus
    obtain ⟨hplain, hzero⟩ := h
    have hdigits := natural_ofDigitChars hplain
    have hpos : Nat.ofDigitChars 10 digits 0 ≠ 0 := by
      intro h0
      rw [h0] at hdigits
      exact hzero hdigits.symm
    show decimal (-(Nat.ofDigitChars 10 digits 0 : Int)) = '-' :: digits
    rw [decimal_of_neg (by omega), Int.natAbs_neg, Int.natAbs_natCast, hdigits]
  · have hne : ∀ rest, text ≠ '-' :: rest := fun rest heq => hminus ⟨rest, heq⟩
    have hplain := (isShortest_iff_isPlain hne).mp h
    rw [value_of_ne_minus hne, decimal_of_nonneg (by omega), Int.natAbs_natCast,
      natural_ofDigitChars hplain]

theorem decimal_injective : Function.Injective decimal := by
  intro m n heq
  rw [← value_decimal m, heq, value_decimal]

/-- The characters of a numeral are digits and minus signs. -/
theorem isDigit_or_minus_of_mem_decimal {n : Int} {c : Char} (h : c ∈ decimal n) :
    c.isDigit ∨ c = '-' := by
  by_cases hneg : n < 0
  · rw [decimal_of_neg hneg, List.mem_cons] at h
    rcases h with hminus | hdigit
    · exact Or.inr hminus
    · exact Or.inl (isDigit_of_mem_natural hdigit)
  · rw [decimal_of_nonneg (by omega)] at h
    exact Or.inl (isDigit_of_mem_natural h)

theorem notMem_decimal {c : Char} (hdigit : c.isDigit = false) (hminus : c ≠ '-') (n : Int) :
    c ∉ decimal n := by
  intro hmem
  rcases isDigit_or_minus_of_mem_decimal hmem with h | h
  · rw [hdigit] at h
    exact absurd h (by decide)
  · exact hminus h

/-- Numerals of integers, each ended by a symbol that no numeral holds, are
self-delimiting. -/
theorem selfDelimiting_decimal {stop : Char} (hdigit : stop.isDigit = false)
    (hminus : stop ≠ '-') : SelfDelimiting fun n : Int => decimal n ++ [stop] := by
  apply selfDelimiting_terminated decimal_injective
  exact notMem_decimal hdigit hminus

end Faults.Numeral
