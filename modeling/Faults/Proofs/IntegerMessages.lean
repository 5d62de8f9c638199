import Faults.Fault.Draft
import Faults.Proofs.NumeralTexts
import Faults.Proofs.SpecifiedFaults
import Faults.Tagging.Attempt
import Faults.Tagging.Stage

/-!
# Integers written into messages and read back

A message may be nothing but an integer, written plainly, with a plus sign, or padded by
zeros to a width.  Whatever the width, it is a numeral of the integer
(`Format.Integer.isNumeral_decimal`), and so it is read back as that integer by the
operation that gives failures a status.

In the other direction, what is read of a text is written as the text without its
plus sign and its leading zeros; and of a text that is refused, the fault says
why, and nothing of the text.

* `integers_read_back` — both directions, and the message of every refusal.
-/

namespace Faults

/-- A text is read as an integer of a type, and a failure is given a status. -/
def readWithStatus (ty : IntType) (status : Int32) (text : String) :
    Except Abort (Except Fault Success) :=
  (Stage.strict status).apply (Attempt.integer ty .ten text).run

/-- The templates `{}` and `{:+}`, and with a width `w` the templates `{:0w}` and `{:+0w}`. -/
def Template.numeral (plus : Bool) : Option Count → String
  | none => if plus then "\x7b:+\x7d" else plain
  | some width =>
    (if plus then "\x7b:+0" else "\x7b:0") ++ String.ofList width.spell ++ "\x7d"

/-- The directive that such a template is. -/
def Directive.numeral (plus : Bool) (width : Option Count) : Directive where
  sign := if plus then some .plus else none
  zeroPad := width.isSome
  width := width.getD .implied

/-! ## Writing -/

theorem Template.toList_numeral (plus : Bool) (width : Option Count) :
    (numeral plus width).toList = (Directive.numeral plus width).text := by
  cases width with
  | none => cases plus <;> rfl
  | some width =>
      cases plus <;>
        simp [numeral, Directive.numeral, Directive.text, Directive.body, Directive.spec,
          Directive.tail, Directive.counts, Count.spellPrecision, Style.spell, Reference.text,
          SignMark.mark]

theorem Directive.isWritable_numeral (plus : Bool) {width : Option Count}
    (hwidth : ∀ count ∈ width, count.IsWritable true) : (numeral plus width).IsWritable where
  argument := trivial
  width := by
    cases width with
    | none => trivial
    | some count => exact hwidth count rfl
  precision := trivial

/-- A width is no next argument, so the argument of the directive is the first one. -/
theorem Directive.asks_numeral {names : List String} {arguments : List Argument} (plus : Bool)
    {width : Option Count} {given : Option Nat}
    (hwidth : ∀ count ∈ width, count.IsWritable true)
    (hgives : (width.getD .implied).Gives names arguments 0 given)
    (hlimit : ∀ w ∈ given, w ≤ Count.greatest) :
    (numeral plus width).Asks names arguments given none 0 where
  givesWidth := hgives
  widthLimit := hlimit
  givesPrecision := .implied
  precisionLimit w hw := absurd hw (Option.not_mem_none w)
  position := by
    have htakes : (width.getD .implied).takes = 0 := by
      rcases width with _ | _ | _ | (_ | _ | _)
      · rfl
      · rfl
      · rfl
      · exact absurd rfl (hwidth _ rfl).2
      · rfl
      · rfl
    show some ((width.getD .implied).takes + 0) = some 0
    rw [htakes]

namespace Format.Integer

/-- Zeros may stand between the sign and the digits, and nowhere else. -/
theorem exists_decimal_eq {spec : Spec} (hpad : spec.zeroPad = true ∨ spec.width = 0) (n : Int) :
    ∃ zeros : Nat, decimal spec n = spec.sign (decide (n < 0)) ++
      (List.replicate zeros '0' ++ Numeral.natural n.natAbs) := by
  by_cases hzero : spec.zeroPad = true
  · refine ⟨spec.width - ((spec.sign (decide (n < 0))).length +
      (Numeral.natural n.natAbs).length), ?_⟩
    rw [decimal, Spec.numeric, if_pos hzero, List.append_assoc]
  · have hwidth : spec.width = 0 := hpad.resolve_left hzero
    refine ⟨0, ?_⟩
    rw [decimal, Spec.numeric, if_neg hzero, Spec.pad_of_width_eq_zero hwidth]
    rfl

/-- **An integer is written as a numeral of it**, with a sign and leading zeros as the
specification asks for them. -/
theorem isNumeral_decimal {ty : IntType} {n : Int} (hn : ty.Holds n) {spec : Spec}
    (hpad : spec.zeroPad = true ∨ spec.width = 0) : Numeral.IsNumeral ty (decimal spec n) n := by
  obtain ⟨zeros, htext⟩ := exists_decimal_eq hpad n
  have hdigits : Numeral.IsDigits (List.replicate zeros '0' ++ Numeral.natural n.natAbs) := by
    refine ⟨fun h => Numeral.natural_ne_nil _ (List.append_eq_nil_iff.mp h).2, fun c hc => ?_⟩
    rcases List.mem_append.mp hc with hzero | hdigit
    · rw [List.eq_of_mem_replicate hzero]
      rfl
    · exact Numeral.isDigit_of_mem_natural hdigit
  have hvalue : Nat.ofDigitChars 10 (List.replicate zeros '0' ++ Numeral.natural n.natAbs) 0 =
      n.natAbs := by
    rw [Nat.ofDigitChars_append, Nat.ofDigitChars_replicate_zero, Nat.mul_zero,
      Numeral.ofDigitChars_natural]
  rw [htext]
  by_cases hneg : n < 0
  · have hminus := Numeral.IsNumeral.minus hdigits (IntType.isSigned_of_holds_neg hn hneg)
    rw [hvalue, show -(n.natAbs : Int) = n by omega] at hminus
    rwa [Spec.sign, if_pos (decide_eq_true hneg)]
  · have habs : (n.natAbs : Int) = n := by omega
    have hbare : Numeral.IsNumeral ty _ _ := .bare hdigits
    have hplus : Numeral.IsNumeral ty _ _ := .plus hdigits
    rw [hvalue, habs] at hbare hplus
    have hnot : ¬ decide (n < 0) = true := fun h => hneg (of_decide_eq_true h)
    rw [Spec.sign, if_neg hnot]
    split_ifs
    · exact hplus
    · exact hbare

end Format.Integer

section

variable {ty : IntType} {n : Int} {width : Option Count} {names : List String}
  {arguments : List Argument} {given : Option Nat}

/-- A template of an integer makes a fault with a numeral of it as the message. -/
theorem Fault.ofTemplate_numeral (hn : ty.Holds n) (plus : Bool)
    (hargument : arguments[0]? = some (.scalar (.integer ty n)))
    (hwidth : ∀ count ∈ width, count.IsWritable true)
    (hgives : (width.getD .implied).Gives names arguments 0 given)
    (hlimit : ∀ w ∈ given, w ≤ Count.greatest) :
    ∃ message : String, Numeral.IsNumeral ty message.toList n ∧
      ∀ status, Fault.ofTemplate names status (Template.numeral plus width) arguments =
        .ok ⟨status, message⟩ := by
  have hd := Directive.isWritable_numeral plus hwidth
  have hasks := Directive.asks_numeral plus hwidth hgives hlimit
  have hpad : ((Directive.numeral plus width).asked given none).zeroPad = true ∨
      ((Directive.numeral plus width).asked given none).width = 0 := by
    cases width with
    | none =>
        cases hgives
        exact Or.inr rfl
    | some count => exact Or.inl rfl
  refine ⟨String.ofList
    (Format.Integer.decimal ((Directive.numeral plus width).asked given none) n),
    ?_, fun status => ?_⟩
  · rw [String.toList_ofList]
    exact Format.Integer.isNumeral_decimal hn hpad
  · rw [Fault.ofTemplate, Template.toList_numeral, Template.fill_directive hd hasks hargument rfl]
    rfl

/-- A width beyond the limit makes no fault. -/
theorem Fault.ofTemplate_numeral_of_exceeding (plus : Bool) {w : Nat}
    (hwidth : ∀ count ∈ width, count.IsWritable true)
    (hgives : (width.getD .implied).Gives names arguments 0 (some w))
    (hexceeds : Count.greatest < w) (status : Int32) :
    Fault.ofTemplate names status (Template.numeral plus width) arguments =
      .error (.countTooLarge w) := by
  rw [Fault.ofTemplate, Template.toList_numeral, Template.fill_directive_of_exceeding
    (Directive.isWritable_numeral plus hwidth) hgives hexceeds]
  rfl

/-- Without a sign and a width, the message is the canonical numeral. -/
theorem Fault.ofTemplate_plain (status : Int32) :
    Fault.ofTemplate names status Template.plain [.scalar (.integer ty n)] =
      .ok ⟨status, String.ofList (Numeral.decimal n)⟩ := by
  have hrender : (Argument.scalar (.integer ty n)).render? isHidden {} .plain =
      some (Numeral.decimal n) :=
    congrArg some (Format.Integer.decimal_alternate false n)
  rw [Fault.ofTemplate, Template.fill_plain hrender]
  rfl

end

/-! ## Reading -/

theorem readWithStatus_of_ok {ty : IntType} {text : String} {n : Int}
    (h : Numeral.readDecimal ty text.toList = .ok n) (status : Int32) :
    readWithStatus ty status text = .ok (.ok (.integer n)) := by
  have hread : Numeral.read ty Numeral.Radix.ten.base text.toList = .ok n := h
  simp only [readWithStatus, Attempt.run, hread]
  rfl

theorem readWithStatus_of_error {ty : IntType} {text : String} {error : NumeralError}
    (h : Numeral.readDecimal ty text.toList = .error error) (status : Int32) :
    readWithStatus ty status text = .ok (.error ⟨status, error.message⟩) := by
  have hread : Numeral.read ty Numeral.Radix.ten.base text.toList = .error error := h
  simp only [readWithStatus, Attempt.run, hread]
  rfl

section

variable {ty : IntType} {status : Int32} {text : String}

/-- Exactly the numerals of the integers of the type are read. -/
theorem readWithStatus_eq_ok_iff {value : Success} :
    readWithStatus ty status text = .ok (.ok value) ↔
      ∃ n, value = .integer n ∧ ty.Holds n ∧ Numeral.IsNumeral ty text.toList n := by
  constructor
  · intro h
    cases hread : Numeral.readDecimal ty text.toList with
    | ok n =>
        rw [readWithStatus_of_ok hread] at h
        obtain rfl := Except.ok.inj (Except.ok.inj h)
        exact ⟨n, rfl, Numeral.readDecimal_eq_ok_iff.mp hread⟩
    | error error =>
        rw [readWithStatus_of_error hread] at h
        exact nomatch h
  · rintro ⟨n, rfl, hnumeral⟩
    exact readWithStatus_of_ok (Numeral.readDecimal_eq_ok_iff.mpr hnumeral) status

/-- All other texts are refused, with the status. -/
theorem readWithStatus_eq_error_iff {e : Fault} :
    readWithStatus ty status text = .ok (.error e) ↔
      (¬ ∃ n, ty.Holds n ∧ Numeral.IsNumeral ty text.toList n) ∧
        e = ⟨status, (Numeral.refusal ty text.toList).message⟩ := by
  constructor
  · intro h
    cases hread : Numeral.readDecimal ty text.toList with
    | ok n =>
        rw [readWithStatus_of_ok hread] at h
        exact nomatch h
    | error error =>
        rw [readWithStatus_of_error hread] at h
        obtain rfl := Except.error.inj (Except.ok.inj h)
        obtain ⟨hnone, rfl⟩ := Numeral.readDecimal_eq_error_iff.mp hread
        exact ⟨hnone, rfl⟩
  · rintro ⟨hnone, rfl⟩
    exact readWithStatus_of_error (Numeral.readDecimal_eq_error_iff.mpr ⟨hnone, rfl⟩) status

end

/-- The refusals of numerals are told apart by what is said about them. -/
theorem NumeralError.message_injective : Function.Injective NumeralError.message := by
  intro a b heq
  cases a <;> cases b <;> first | rfl | exact absurd heq (by decide)

/-- A fault says why a text could not be read as an integer of a type. -/
structure TellsRefusal (ty : IntType) (status : Int32) (text : String) (e : Fault) : Prop where
  status : e.status = status
  empty : e.message = NumeralError.empty.message ↔ text = ""
  tooLarge : e.message = NumeralError.tooLarge.message ↔
    text ≠ "" ∧ (Numeral.splitSign ty text.toList).1 = .up ∧
      ¬ ty.Holds (Numeral.runValue ty text.toList)
  tooSmall : e.message = NumeralError.tooSmall.message ↔
    text ≠ "" ∧ (Numeral.splitSign ty text.toList).1 = .down ∧
      ¬ ty.Holds (Numeral.runValue ty text.toList)
  invalidDigit : e.message = NumeralError.invalidDigit.message ↔
    text ≠ "" ∧ ty.Holds (Numeral.runValue ty text.toList)
  unsignedMinus : ty.isSigned = false → ∀ rest, text.toList = '-' :: rest →
    e.message = NumeralError.invalidDigit.message

theorem tellsRefusal_refusal (ty : IntType) (status : Int32) (text : String) :
    TellsRefusal ty status text ⟨status, (Numeral.refusal ty text.toList).message⟩ := by
  have hmessage (error : NumeralError) :
      (Numeral.refusal ty text.toList).message = error.message ↔
        Numeral.refusal ty text.toList = error :=
    NumeralError.message_injective.eq_iff
  have hempty : text.toList = [] ↔ text = "" := String.toList_eq_nil_iff
  constructor
  · rfl
  · exact (hmessage _).trans (Numeral.refusal_eq_empty_iff.trans hempty)
  · rw [← hempty.ne]
    exact (hmessage _).trans (Numeral.refusal_eq_overflow_iff .up)
  · rw [← hempty.ne]
    exact (hmessage _).trans (Numeral.refusal_eq_overflow_iff .down)
  · rw [← hempty.ne]
    exact (hmessage _).trans Numeral.refusal_eq_invalidDigit_iff
  · intro hunsigned rest hrest
    rw [hmessage, hrest]
    exact Numeral.refusal_minus hunsigned rest

/-- **Integers written into messages are read back, and texts that are read are written
back.**

Writing: the first argument is an integer of the type.  Written with a plus sign or
without, and padded by zeros or not, to a width that is given in the template or
by another argument, it is a message, and the message is read as the integer.  A
width beyond the limit makes no message at all.

Reading: a text is read if and only if it is a numeral of an integer of the type,
with a sign or without, and with any number of zeros in front.  The plain message of
what is read is the text without its plus sign and without leading zeros.  All
other texts are refused, with a fault that has the status and says why. -/
theorem integers_read_back (ty : IntType) :
    (∀ (n : Int) (plus : Bool) (width : Option Count) (given : Option Nat) (names : List String)
      (arguments : List Argument),
      ty.Holds n → arguments[0]? = some (.scalar (.integer ty n)) →
      (∀ count ∈ width, count.IsWritable true) →
      (width.getD .implied).Gives names arguments 0 given →
      ((∀ w ∈ given, w ≤ Count.greatest) →
        ∃ message : String,
          (∀ status, Fault.ofTemplate names status (Template.numeral plus width) arguments =
            .ok ⟨status, message⟩) ∧
          ∀ status, readWithStatus ty status message = .ok (.ok (.integer n))) ∧
      ∀ w ∈ given, Count.greatest < w → ∀ status,
        Fault.ofTemplate names status (Template.numeral plus width) arguments =
          .error (.countTooLarge w)) ∧
    ∀ (status : Int32) (text : String),
      ((∃ value, readWithStatus ty status text = .ok (.ok value)) ↔
        ∃ n, ty.Holds n ∧ Numeral.IsNumeral ty text.toList n) ∧
      (∀ value, readWithStatus ty status text = .ok (.ok value) →
        ∃ n, value = .integer n ∧ ty.Holds n ∧ ∀ names other,
          Fault.ofTemplate names other Template.plain [.scalar (.integer ty n)] =
            .ok ⟨other, String.ofList (Numeral.shortened text.toList)⟩) ∧
      ((∃ e, readWithStatus ty status text = .ok (.error e)) ↔
        ¬ ∃ n, ty.Holds n ∧ Numeral.IsNumeral ty text.toList n) ∧
      ∀ e, readWithStatus ty status text = .ok (.error e) → TellsRefusal ty status text e := by
  refine ⟨?_, fun status text => ⟨⟨?_, ?_⟩, ?_, ⟨?_, ?_⟩, ?_⟩⟩
  · intro n plus width given names arguments hn hargument hwidth hgives
    refine ⟨fun hlimit => ?_, fun w hw hexceeds status => ?_⟩
    · obtain ⟨message, hnumeral, hmade⟩ :=
        Fault.ofTemplate_numeral hn plus hargument hwidth hgives hlimit
      have hread := Numeral.readDecimal_eq_ok_iff.mpr ⟨hn, hnumeral⟩
      exact ⟨message, hmade, readWithStatus_of_ok hread⟩
    · obtain rfl := Option.mem_def.mp hw
      exact Fault.ofTemplate_numeral_of_exceeding plus hwidth hgives hexceeds status
  · rintro ⟨value, hread⟩
    obtain ⟨n, -, hnumeral⟩ := readWithStatus_eq_ok_iff.mp hread
    exact ⟨n, hnumeral⟩
  · rintro ⟨n, hnumeral⟩
    exact ⟨_, readWithStatus_eq_ok_iff.mpr ⟨n, rfl, hnumeral⟩⟩
  · intro value hread
    obtain ⟨n, hvalue, hn, hnumeral⟩ := readWithStatus_eq_ok_iff.mp hread
    refine ⟨n, hvalue, hn, fun names other => ?_⟩
    rw [Fault.ofTemplate_plain, Numeral.decimal_of_isNumeral hnumeral]
  · rintro ⟨e, hread⟩
    exact (readWithStatus_eq_error_iff.mp hread).1
  · intro hnone
    exact ⟨_, readWithStatus_eq_error_iff.mpr ⟨hnone, rfl⟩⟩
  · intro e hread
    obtain ⟨-, rfl⟩ := readWithStatus_eq_error_iff.mp hread
    exact tellsRefusal_refusal ty status text

/-- The least byte, whose magnitude is no byte, with a width from another argument. -/
theorem least_byte_read_back :
    ∃ message : String,
      Fault.ofTemplate ["byte", "size"] 7 "\x7b:+0size$\x7d"
        [.scalar (.integer (.signed 8) (-128)), .scalar (.integer .count 9)] = .ok ⟨7, message⟩ ∧
      readWithStatus (.signed 8) 3 message = .ok (.ok (.integer (-128))) := by
  obtain ⟨hwritten, -⟩ := integers_read_back (.signed 8)
  obtain ⟨message, hmade, hread⟩ := (hwritten (-128) true (some (.taken (.name "size"))) (some 9)
    ["byte", "size"] [.scalar (.integer (.signed 8) (-128)), .scalar (.integer .count 9)]
    (by decide) rfl (by decide) (.taken (i := 1) (by decide) rfl)).1 (by decide)
  have htemplate : Template.numeral true (some (.taken (.name "size"))) =
      "\x7b:+0size$\x7d" := by decide
  rw [htemplate] at hmade
  exact ⟨message, hmade 7, hread 3⟩

/-- A run that leaves the range hides what stands behind it, and a minus sign is no digit. -/
example :
    readWithStatus (.unsigned 8) 3 "0300x" =
      .ok (.error ⟨3, "number too large to fit in target type"⟩) ∧
    readWithStatus (.unsigned 8) 3 "0255x" =
      .ok (.error ⟨3, "invalid digit found in string"⟩) ∧
    readWithStatus (.unsigned 8) 3 "-300" =
      .ok (.error ⟨3, "invalid digit found in string"⟩) := by
  decide

end Faults
