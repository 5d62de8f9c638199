import Faults.Proofs.BoundedReading
import Mathlib.Data.List.TakeWhile

/-!
# The canonical text can be taken apart in one way only

The canonical text of a fault is its **heading**, `errCode: S, errMsg: `, and
behind it the message as it is.  The message is not escaped, so it may hold
separators, numerals, or a whole canonical text.  None of them can move the
place of division: a heading is self-delimiting
(`Fault.selfDelimiting_heading`), because a numeral holds no comma.

* `Fault.canonical_injective` — faults with the same canonical text are equal;
* `Fault.ofCanonical?_eq_some_iff` — reading inverts writing, and accepts
  nothing else;
* `dividedAtFirst_of_notMem` — where a separator stands for the first time;
* `canonicalText_isExact` — **the format**: which strings are canonical texts,
  and what the fault of each is.
-/

namespace Faults

/-- A text is divided at the first place where a separator stands in it. -/
structure DividedAtFirst (separator text before behind : Text) : Prop where
  /-- The separator stands between the two parts. -/
  eq : text = before ++ separator ++ behind
  /-- It stands nowhere further to the left. -/
  first : ∀ before' behind', text = before' ++ separator ++ behind' →
    before.length ≤ before'.length

/-- A separator stands for the first time behind a part that does not hold the
character with which it begins. -/
theorem dividedAtFirst_of_notMem {c : Char} {before : Text} (rest behind : Text)
    (hc : c ∉ before) :
    DividedAtFirst (c :: rest) (before ++ c :: rest ++ behind) before behind where
  eq := rfl
  first before' behind' heq := by
    by_contra hlt
    have hshort : before'.length < before.length := by omega
    -- The character at the place of the earlier separator, seen from both sides.
    have hat : (before ++ c :: rest ++ behind)[before'.length]? = some c := by
      rw [heq]
      simp
    rw [List.append_assoc, List.getElem?_append_left hshort] at hat
    exact hc (List.mem_of_getElem? hat)

/-! ## Statuses -/

theorem holds_status_iff {n : Int} :
    IntType.status.Holds n ↔ -2147483648 ≤ n ∧ n ≤ 2147483647 :=
  Iff.rfl

theorem holds_toInt (status : Int32) : IntType.status.Holds status.toInt := by
  have hlt := status.toInt_lt
  have hle := status.le_toInt
  rw [holds_status_iff]
  omega

/-- A status is the integer it was made from. -/
theorem toInt_ofInt_of_holds {n : Int} (h : IntType.status.Holds n) :
    (Int32.ofInt n).toInt = n := by
  have hrange := holds_status_iff.mp h
  exact Int32.toInt_ofInt_of_le (by omega) (by omega)

/-- The shortest numeral of a status. -/
def IsStatusNumeral (numeral : Text) : Prop :=
  Numeral.IsShortest numeral ∧
    -2147483648 ≤ Numeral.value numeral ∧ Numeral.value numeral ≤ 2147483647

/-- A status is written as a shortest numeral of a status. -/
theorem isStatusNumeral_decimal (status : Int32) :
    IsStatusNumeral (Numeral.decimal status.toInt) := by
  refine ⟨Numeral.isShortest_decimal _, ?_⟩
  rw [Numeral.value_decimal]
  exact holds_status_iff.mp (holds_toInt status)

/-- Every shortest numeral of a status is what is written for one. -/
theorem decimal_ofInt_value {numeral : Text} (h : IsStatusNumeral numeral) :
    Numeral.decimal (Int32.ofInt (Numeral.value numeral)).toInt = numeral := by
  rw [toInt_ofInt_of_holds (holds_status_iff.mpr h.2), Numeral.decimal_value h.1]

namespace Fault

/-! ## Headings -/

/-- What stands before the message in a canonical text. -/
def heading (status : Int32) : Text :=
  statusLabel ++ Numeral.decimal status.toInt ++ messageLabel

theorem messageLabel_eq : messageLabel = ',' :: " errMsg: ".toList := by
  decide

theorem canonicalText_eq (e : Fault) :
    e.canonicalText = heading e.status ++ e.message.toList :=
  rfl

theorem canonical_eq_iff {e : Fault} {text : String} :
    e.canonical = text ↔ e.canonicalText = text.toList := by
  rw [canonical, ← String.toList_inj, String.toList_ofList]

/-- The numeral of a status ends at a comma. -/
theorem selfDelimiting_status :
    SelfDelimiting fun s : Int32 => Numeral.decimal s.toInt ++ [','] := by
  have hnumeral : SelfDelimiting fun n : Int => Numeral.decimal n ++ [','] :=
    Numeral.selfDelimiting_decimal (by decide) (by decide)
  exact hnumeral.comp fun s t => Int32.toInt.inj

/-- **Nothing in a message can move the place of division.**  A heading
determines its status and its own end, whatever stands behind it. -/
theorem selfDelimiting_heading : SelfDelimiting heading := by
  have hlabelled := (selfDelimiting_status.lead statusLabel).trail " errMsg: ".toList
  have hsplit : heading = fun s : Int32 =>
      statusLabel ++ (Numeral.decimal s.toInt ++ [',']) ++ " errMsg: ".toList := by
    funext s
    simp only [heading, messageLabel_eq, List.append_assoc, List.singleton_append]
  rw [hsplit]
  exact hlabelled

theorem canonicalText_injective : Function.Injective canonicalText := by
  intro e f heq
  rw [canonicalText_eq, canonicalText_eq] at heq
  obtain ⟨hstatus, hmessage⟩ := selfDelimiting_heading _ _ _ _ heq
  exact parts_injective (Prod.ext hstatus (String.toList_injective hmessage))

/-- Faults with the same canonical text are equal. -/
theorem canonical_injective : Function.Injective canonical := by
  intro e f heq
  exact canonicalText_injective (String.ofList_injective heq)

/-! ## Reading -/

/-- The numeral of a status ends where the separator begins. -/
theorem spanNumeral_decimal (n : Int) (message : Text) :
    spanNumeral (Numeral.decimal n ++ messageLabel ++ message) =
      (Numeral.decimal n, messageLabel ++ message) := by
  have hall : ∀ c ∈ Numeral.decimal n, (c.isDigit || c == '-') = true := by
    intro c hc
    rcases Numeral.isDigit_or_minus_of_mem_decimal hc with h | h <;> simp [h]
  unfold spanNumeral Text.splitWhile
  rw [List.append_assoc, List.takeWhile_append_of_pos hall, List.dropWhile_append_of_pos hall,
    messageLabel_eq]
  simp

/-- The canonical text of a fault is read back as that fault. -/
theorem ofCanonicalText?_canonicalText (e : Fault) :
    ofCanonicalText? e.canonicalText = some e := by
  have hlabel : statusLabel.isPrefixOf? e.canonicalText =
      some (Numeral.decimal e.status.toInt ++ messageLabel ++ e.message.toList) := by
    rw [List.isPrefixOf?_eq_some_iff_append_eq]
    simp [canonicalText]
  have hstatus : Numeral.ofDecimal? .status (Numeral.decimal e.status.toInt) =
      some e.status.toInt :=
    Numeral.ofDecimal?_eq_some_iff.mpr ⟨holds_toInt e.status, rfl⟩
  have hmessage : messageLabel.isPrefixOf? (messageLabel ++ e.message.toList) =
      some e.message.toList :=
    List.isPrefixOf?_eq_some_iff_append_eq.mpr rfl
  rw [ofCanonicalText?, hlabel, Option.bind_eq_bind, Option.bind_some, spanNumeral_decimal]
  simp only [hstatus, hmessage, Option.bind_eq_bind, Option.bind_some, Option.pure_def,
    Int32.ofInt_toInt, String.ofList_toList]

/-- A text that is read is the canonical text of what is read from it. -/
theorem canonicalText_of_ofCanonicalText? {text : Text} {e : Fault}
    (h : ofCanonicalText? text = some e) : e.canonicalText = text := by
  simp only [ofCanonicalText?, Option.bind_eq_bind, Option.bind_eq_some_iff,
    List.isPrefixOf?_eq_some_iff_append_eq, Numeral.ofDecimal?_eq_some_iff] at h
  obtain ⟨rest, hrest, status, ⟨hholds, hdecimal⟩, message, hmessage, hfault⟩ := h
  obtain rfl := Option.some.inj hfault
  have hwhole : (spanNumeral rest).1 ++ (spanNumeral rest).2 = rest :=
    List.takeWhile_append_dropWhile
  calc canonicalText ⟨.ofInt status, String.ofList message⟩
      = statusLabel ++ (Numeral.decimal status ++ (messageLabel ++ message)) := by
        simp [canonicalText, toInt_ofInt_of_holds hholds]
    _ = statusLabel ++ ((spanNumeral rest).1 ++ (spanNumeral rest).2) := by
        rw [hdecimal, hmessage]
    _ = text := by rw [hwhole, hrest]

/-- **Reading inverts writing, and accepts nothing else.** -/
theorem ofCanonical?_eq_some_iff {text : String} {e : Fault} :
    ofCanonical? text = some e ↔ e.canonical = text := by
  rw [canonical_eq_iff]
  constructor
  · intro h
    exact canonicalText_of_ofCanonicalText? h
  · intro h
    rw [ofCanonical?, ← h]
    exact ofCanonicalText?_canonicalText e

end Fault

/-! ## The format -/

/-- The form of a canonical text, from its numeral and its message. -/
structure HasCanonicalForm (numeral message text : String) : Prop where
  /-- The first part is the shortest numeral of a status. -/
  isStatusNumeral : IsStatusNumeral numeral.toList
  /-- The parts stand behind their labels. -/
  eq : text = "errCode: " ++ numeral ++ ", errMsg: " ++ message

theorem hasCanonicalForm_canonical (e : Fault) :
    HasCanonicalForm (String.ofList (Numeral.decimal e.status.toInt)) e.message e.canonical where
  isStatusNumeral := by
    rw [String.toList_ofList]
    exact isStatusNumeral_decimal e.status
  eq := by
    rw [Fault.canonical_eq_iff]
    simp only [String.toList_append, String.toList_ofList]
    rfl

namespace HasCanonicalForm

variable {numeral message text : String}

theorem toList_eq (h : HasCanonicalForm numeral message text) :
    text.toList = Fault.statusLabel ++ numeral.toList ++ Fault.messageLabel ++ message.toList := by
  rw [h.eq]
  simp only [String.toList_append]
  rfl

/-- A text of the form is the canonical text of the fault with the value of the
numeral and with the message. -/
theorem canonical_eq (h : HasCanonicalForm numeral message text) :
    Fault.canonical ⟨.ofInt (Numeral.value numeral.toList), message⟩ = text := by
  rw [Fault.canonical_eq_iff, h.toList_eq]
  simp only [Fault.canonicalText, decimal_ofInt_value h.isStatusNumeral]

/-- The message is all that follows the first separator. -/
theorem dividedAtFirst (h : HasCanonicalForm numeral message text) :
    DividedAtFirst ", errMsg: ".toList text.toList ("errCode: " ++ numeral).toList
      message.toList := by
  have hcomma : ',' ∉ Fault.statusLabel ++ numeral.toList := by
    rw [List.mem_append, not_or]
    refine ⟨by decide, ?_⟩
    rw [← decimal_ofInt_value h.isStatusNumeral]
    exact Numeral.notMem_decimal (by decide) (by decide) _
  rw [h.toList_eq, String.toList_append]
  exact dividedAtFirst_of_notMem " errMsg: ".toList message.toList hcomma

end HasCanonicalForm

/-- **The canonical text is an exact format.**  A string is the canonical text
of some fault exactly when it has the form; then there is one such fault, its
status is the value of the numeral, and its message is all that follows the
first separator.  Reading yields that fault, and nothing for any other string. -/
theorem canonicalText_isExact (text : String) :
    ((∃ e : Fault, e.canonical = text) ↔
      ∃ numeral message : String, HasCanonicalForm numeral message text) ∧
    (∀ numeral message : String, HasCanonicalForm numeral message text →
      ∃ e : Fault, e.canonical = text ∧ (∀ f : Fault, f.canonical = text → f = e) ∧
        e.status.toInt = Numeral.value numeral.toList ∧ e.message = message ∧
        DividedAtFirst ", errMsg: ".toList text.toList ("errCode: " ++ numeral).toList
          message.toList) ∧
    (∀ e : Fault, Fault.ofCanonical? text = some e ↔ e.canonical = text) := by
  refine ⟨⟨?_, ?_⟩, ?_, fun e => Fault.ofCanonical?_eq_some_iff⟩
  · rintro ⟨e, rfl⟩
    exact ⟨_, _, hasCanonicalForm_canonical e⟩
  · rintro ⟨numeral, message, h⟩
    exact ⟨_, h.canonical_eq⟩
  · intro numeral message h
    refine ⟨_, h.canonical_eq, ?_, ?_, rfl, h.dividedAtFirst⟩
    · intro f hf
      exact Fault.canonical_injective (hf.trans h.canonical_eq.symm)
    · exact toInt_ofInt_of_holds (holds_status_iff.mpr h.isStatusNumeral.2)

/-- A message that is itself a canonical text is given back whole, behind the
numeral of the least status. -/
example : Fault.ofCanonical? "errCode: -2147483648, errMsg: errCode: 1, errMsg: x" =
    some ⟨-2147483648, "errCode: 1, errMsg: x"⟩ := by
  decide

end Faults
