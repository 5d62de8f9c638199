import Faults.Proofs.BoundedReading

/-!
# Which texts are numerals

`Numeral.readDecimal` reads a text from left to right and stops at the first
refusal.  Here it is told from the text as a whole: from its sign, from the run of
digits behind the sign, and from what stands behind the run.

* `Numeral.IsNumeral` — a text is a numeral of an integer: digits, perhaps behind a sign;
* `Numeral.readDecimal_eq` — **classification**: what is read of a text, and why
  a text is refused (`Numeral.refusal`);
* `Numeral.readDecimal_eq_ok_iff` — what is read are the numerals of the integers of the type;
* `Numeral.decimal_of_isNumeral` — the canonical numeral of an integer is any numeral of it
  without a plus sign and without leading zeros.
-/

namespace Faults.Numeral

/-- One digit or more. -/
structure IsDigits (digits : Text) : Prop where
  nonempty : digits ≠ []
  isDigit : ∀ c ∈ digits, c.isDigit

instance (digits : Text) : Decidable (IsDigits digits) :=
  decidable_of_iff (digits.isEmpty = false ∧ digits.all Char.isDigit = true)
    ⟨fun h => ⟨List.isEmpty_eq_false_iff.mp h.1, List.all_eq_true.mp h.2⟩,
      fun h => ⟨List.isEmpty_eq_false_iff.mpr h.nonempty, List.all_eq_true.mpr h.isDigit⟩⟩

/-- A text is a numeral of an integer.  A minus sign may stand only where the type has
negative values; zeros may lead. -/
inductive IsNumeral (ty : IntType) : Text → Int → Prop
  | bare {digits : Text} (hdigits : IsDigits digits) :
      IsNumeral ty digits (Nat.ofDigitChars 10 digits 0)
  | plus {digits : Text} (hdigits : IsDigits digits) :
      IsNumeral ty ('+' :: digits) (Nat.ofDigitChars 10 digits 0)
  | minus {digits : Text} (hdigits : IsDigits digits) (hsigned : ty.isSigned = true) :
      IsNumeral ty ('-' :: digits) (-Nat.ofDigitChars 10 digits 0)

/-- The direction in which the digits of a text count, and what stands behind its sign.
Where the type has no negative values, a minus sign is no sign. -/
def splitSign (ty : IntType) : Text → Direction × Text
  | '+' :: rest => (.up, rest)
  | '-' :: rest => if ty.isSigned then (.down, rest) else (.up, '-' :: rest)
  | text => (.up, text)

/-- The value of the digits that follow the sign of a text, up to the first character
that is no digit. -/
def runValue (ty : IntType) (text : Text) : Int :=
  (splitSign ty text).1.signed
    (Nat.ofDigitChars 10 ((splitSign ty text).2.takeWhile Char.isDigit) 0)

/-- Why a text is refused. -/
def refusal (ty : IntType) (text : Text) : NumeralError :=
  if text = [] then .empty
  else if ty.Holds (runValue ty text) then .invalidDigit
  else (splitSign ty text).1.overflow

/-- Digits without leading zeros; of zeros alone, one remains. -/
def withoutZeros (digits : Text) : Text :=
  if digits.all (· == '0') then ['0'] else digits.dropWhile (· == '0')

/-- A numeral without a plus sign and without leading zeros. -/
def shortened : Text → Text
  | '+' :: digits => withoutZeros digits
  | '-' :: digits => if digits.all (· == '0') then ['0'] else '-' :: withoutZeros digits
  | digits => withoutZeros digits

/-! ## Numerals by their signs -/

variable {ty : IntType} {text digits : Text} {n : Int}

theorem splitSign_of_ne (hplus : ∀ rest, text ≠ '+' :: rest)
    (hminus : ∀ rest, text ≠ '-' :: rest) : splitSign ty text = (.up, text) := by
  unfold splitSign
  split
  · exact absurd rfl (hplus _)
  · exact absurd rfl (hminus _)
  · rfl

theorem splitSign_plus (rest : Text) : splitSign ty ('+' :: rest) = (.up, rest) := rfl

theorem splitSign_minus (hsigned : ty.isSigned = true) (rest : Text) :
    splitSign ty ('-' :: rest) = (.down, rest) :=
  if_pos hsigned

/-- No character that is no digit, such as a sign, stands in front of digits. -/
theorem IsDigits.ne_cons (h : IsDigits digits) {c : Char} (hc : c.isDigit = false) (rest : Text) :
    digits ≠ c :: rest := by
  rintro rfl
  have hdigit := h.isDigit c List.mem_cons_self
  rw [hc] at hdigit
  exact absurd hdigit (by decide)

theorem IsDigits.splitSign (h : IsDigits digits) : splitSign ty digits = (.up, digits) :=
  splitSign_of_ne (h.ne_cons (by decide)) (h.ne_cons (by decide))

theorem IsDigits.takeWhile (h : IsDigits digits) : digits.takeWhile Char.isDigit = digits :=
  List.takeWhile_eq_self_iff.mpr h.isDigit

/-- A numeral is a text that has digits and nothing else behind its sign. -/
theorem isNumeral_iff :
    IsNumeral ty text n ↔ IsDigits (splitSign ty text).2 ∧ n = runValue ty text := by
  constructor
  · intro h
    cases h with
    | bare hdigits =>
        rw [runValue, hdigits.splitSign, hdigits.takeWhile]
        exact ⟨hdigits, rfl⟩
    | plus hdigits =>
        rw [runValue, splitSign_plus, hdigits.takeWhile]
        exact ⟨hdigits, rfl⟩
    | minus hdigits hsigned =>
        rw [runValue, splitSign_minus hsigned, hdigits.takeWhile]
        exact ⟨hdigits, rfl⟩
  · rintro ⟨hdigits, rfl⟩
    rw [runValue, hdigits.takeWhile]
    unfold splitSign at hdigits ⊢
    split at hdigits
    · exact .plus hdigits
    · split_ifs at hdigits ⊢ with hsigned
      · exact .minus hdigits hsigned
      · exact absurd rfl (hdigits.ne_cons (by decide) _)
    · exact .bare hdigits

/-! ## Reading -/

/-- What stands behind the sign is read, unless nothing stands there. -/
theorem readDecimal_eq_accumulate (hne : text ≠ []) :
    readDecimal ty text =
      if (splitSign ty text).2 = [] then .error .invalidDigit
      else accumulate ty 10 (splitSign ty text).1 0 (splitSign ty text).2 := by
  -- Where a minus sign is no sign, the first digit is missing.
  have hminus (rest : Text) : accumulate ty 10 .up 0 ('-' :: rest) = .error .invalidDigit := by
    rw [accumulate, digit?_of_not_isDigit (by decide)]
  unfold readDecimal read
  split
  · exact absurd rfl hne
  · rfl
  · by_cases hsigned : ty.isSigned
    · rw [splitSign_minus hsigned]
      rfl
    · rw [splitSign, if_neg hsigned, hminus, ite_self]
  · next rest hrest =>
      rw [splitSign_plus, if_neg hrest]
  · next rest hrest =>
      by_cases hsigned : ty.isSigned
      · rw [splitSign_minus hsigned, if_pos hsigned, if_neg hrest]
      · rw [splitSign, if_neg hsigned, if_neg hsigned, hminus, ite_self]
  · next hplus hminus =>
      rw [splitSign_of_ne hplus hminus, if_neg hne]

/-- **Classification.**  A text is read if it is a numeral of an integer of the type.  If it
is none, it is refused because it is empty, or because the run of digits behind its
sign leaves the range, or else because of a character that is no digit. -/
theorem readDecimal_eq :
    readDecimal ty text =
      if IsDigits (splitSign ty text).2 ∧ ty.Holds (runValue ty text) then
        .ok (runValue ty text)
      else .error (refusal ty text) := by
  by_cases hne : text = []
  · subst hne
    have hnone : ¬ IsDigits ([] : Text) := fun h => h.nonempty rfl
    exact (if_neg fun h => hnone h.1).symm
  · rw [readDecimal_eq_accumulate hne, refusal, if_neg hne, runValue]
    obtain ⟨dir, rest⟩ := splitSign ty text
    have hstart := holds_signed_zero ty dir
    by_cases hrest : rest = []
    · have hnone : ¬ IsDigits rest := fun h => h.nonempty hrest
      subst hrest
      rw [if_pos rfl, if_neg fun h => hnone h.1]
      exact congrArg Except.error (if_pos hstart).symm
    · rw [if_neg hrest, ← dir.signed_zero, accumulate_eq rest hstart]
      by_cases hin : ty.Holds (dir.signed (Nat.ofDigitChars 10 (rest.takeWhile Char.isDigit) 0))
      · have hdigits : IsDigits rest ↔ rest.dropWhile Char.isDigit = [] :=
          ⟨fun h => List.dropWhile_eq_nil_iff.mpr h.isDigit,
            fun h => ⟨hrest, List.dropWhile_eq_nil_iff.mp h⟩⟩
        simp only [hin, hdigits, and_true, if_true]
      · rw [if_neg hin, if_neg fun h => hin h.2, if_neg hin]

theorem readDecimal_eq_ok_iff :
    readDecimal ty text = .ok n ↔ ty.Holds n ∧ IsNumeral ty text n := by
  rw [readDecimal_eq, isNumeral_iff]
  constructor
  · intro h
    split_ifs at h with hread
    obtain rfl := Except.ok.inj h
    exact ⟨hread.2, hread.1, rfl⟩
  · rintro ⟨hholds, hdigits, rfl⟩
    exact if_pos ⟨hdigits, hholds⟩

/-- A text is refused where it is no numeral of an integer of the type. -/
theorem readDecimal_eq_error_iff {error : NumeralError} :
    readDecimal ty text = .error error ↔
      (¬ ∃ n, ty.Holds n ∧ IsNumeral ty text n) ∧ error = refusal ty text := by
  constructor
  · intro h
    refine ⟨?_, ?_⟩
    · rintro ⟨n, hnumeral⟩
      rw [readDecimal_eq_ok_iff.mpr hnumeral] at h
      exact nomatch h
    · rw [readDecimal_eq] at h
      split_ifs at h
      exact (Except.error.inj h).symm
  · rintro ⟨hnone, rfl⟩
    rw [readDecimal_eq]
    exact if_neg fun hread => hnone ⟨_, hread.2, isNumeral_iff.mpr ⟨hread.1, rfl⟩⟩

/-! ## Refusals -/

theorem refusal_eq_empty_iff : refusal ty text = .empty ↔ text = [] := by
  unfold refusal
  cases (splitSign ty text).1 <;> split_ifs <;> simp_all [Direction.overflow]

theorem refusal_eq_invalidDigit_iff :
    refusal ty text = .invalidDigit ↔ text ≠ [] ∧ ty.Holds (runValue ty text) := by
  unfold refusal
  cases (splitSign ty text).1 <;> split_ifs <;> simp_all [Direction.overflow]

/-- Behind a sign in a direction, the range is left in this direction. -/
theorem refusal_eq_overflow_iff (dir : Direction) :
    refusal ty text = dir.overflow ↔
      text ≠ [] ∧ (splitSign ty text).1 = dir ∧ ¬ ty.Holds (runValue ty text) := by
  unfold refusal
  cases dir <;> cases (splitSign ty text).1 <;> split_ifs <;> simp_all [Direction.overflow]

/-- Where the type has no negative values, a minus sign is no digit. -/
theorem refusal_minus (hunsigned : ty.isSigned = false) (rest : Text) :
    refusal ty ('-' :: rest) = .invalidDigit := by
  have hsign : splitSign ty ('-' :: rest) = (.up, '-' :: rest) :=
    if_neg (by rw [hunsigned]; decide)
  have hzero : runValue ty ('-' :: rest) = 0 := by
    rw [runValue, hsign]
    rfl
  rw [refusal_eq_invalidDigit_iff, hzero]
  exact ⟨List.cons_ne_nil _ _, ty.holds_zero⟩

/-! ## Canonical numerals -/

/-- Leading zeros do not count. -/
theorem natural_eq_withoutZeros (hdigits : ∀ c ∈ digits, c.isDigit) :
    natural (Nat.ofDigitChars 10 digits 0) = withoutZeros digits := by
  induction digits with
  | nil => rfl
  | cons c rest ih =>
      by_cases hc : c = '0'
      · subst hc
        have hvalue : Nat.ofDigitChars 10 ('0' :: rest) 0 = Nat.ofDigitChars 10 rest 0 :=
          Nat.ofDigitChars_cons
        have hshort : withoutZeros ('0' :: rest) = withoutZeros rest := by
          simp [withoutZeros]
        rw [hvalue, hshort, ih fun d hd => hdigits d (List.mem_cons_of_mem _ hd)]
      · have hplain : IsPlain (c :: rest) :=
          ⟨List.cons_ne_nil c rest, hdigits, fun hhead => absurd (Option.some.inj hhead) hc⟩
        rw [natural_ofDigitChars hplain]
        simp [withoutZeros, hc]

theorem shortened_of_ne (hplus : ∀ rest, text ≠ '+' :: rest)
    (hminus : ∀ rest, text ≠ '-' :: rest) : shortened text = withoutZeros text := by
  unfold shortened
  split
  · exact absurd rfl (hplus _)
  · exact absurd rfl (hminus _)
  · rfl

/-- The value of digits is zero where all of them are zeros. -/
theorem ofDigitChars_eq_zero_iff (hdigits : ∀ c ∈ digits, c.isDigit) :
    Nat.ofDigitChars 10 digits 0 = 0 ↔ digits.all (· == '0') := by
  have hshort := natural_eq_withoutZeros hdigits
  constructor
  · intro hzero
    rw [hzero] at hshort
    by_contra hall
    rw [withoutZeros, if_neg hall] at hshort
    have hhead := List.head?_dropWhile_not (· == '0') digits
    rw [← hshort] at hhead
    have hfirst : ('0' == '0') = false := hhead
    exact absurd hfirst (by decide)
  · intro hall
    rw [withoutZeros, if_pos hall] at hshort
    exact eq_zero_of_head?_natural (congrArg List.head? hshort)

/-- **The canonical numeral** of an integer is any numeral of it, shortened. -/
theorem decimal_of_isNumeral (h : IsNumeral ty text n) : decimal n = shortened text := by
  cases h with
  | bare hdigits =>
      rw [decimal_of_nonneg (Int.natCast_nonneg _), Int.natAbs_natCast,
        natural_eq_withoutZeros hdigits.isDigit,
        shortened_of_ne (hdigits.ne_cons (by decide)) (hdigits.ne_cons (by decide))]
  | plus hdigits =>
      rw [decimal_of_nonneg (Int.natCast_nonneg _), Int.natAbs_natCast,
        natural_eq_withoutZeros hdigits.isDigit]
      rfl
  | @minus digits hdigits hsigned =>
      have hzero := ofDigitChars_eq_zero_iff hdigits.isDigit
      by_cases hall : digits.all (· == '0')
      · rw [shortened, if_pos hall, hzero.mpr hall]
        rfl
      · have hpos : Nat.ofDigitChars 10 digits 0 ≠ 0 := fun h => hall (hzero.mp h)
        rw [shortened, if_neg hall, decimal_of_neg (by omega), Int.natAbs_neg,
          Int.natAbs_natCast, natural_eq_withoutZeros hdigits.isDigit]

end Faults.Numeral
