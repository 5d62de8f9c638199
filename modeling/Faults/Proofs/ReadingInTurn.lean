import Faults.Proofs.IntegerMessages
import Faults.Tagging.Sequence
import Mathlib.Data.List.Forall2
import Mathlib.Data.List.Infix

/-!
# Reading in turn stops at the first failure

`readInTurn` goes through texts with a status that grows from text to text and wraps
round at the end of its range.  Here it is told from the texts alone: from the longest
beginning of them that can be read, and from the text behind it.

The texts of that beginning are passed one by one, and what each passage changes is the status
with which the reading goes on; nothing that stands further behind is looked at.

* `IsLongestOf` — the longest beginning of a list in which every element has a property;
* `readWithStatus_eq_readTagged` — one turn is a reading whose failure is given a status, as a
  strict stage gives it;
* `readInTurn_append`, `readInTurn_append_cons` — texts that are read are passed, and a
  text that is refused ends it, whatever stands behind;
* `toInt_add_ofNat`, `bmod_sub_emod` — statuses that wrap round, and the way back from a
  status to the place of its text;
* `reading_in_turn_stops_at_first_failure` — **all of it** for any texts.
-/

namespace Faults

/-- The longest beginning of a list of which every element has a property. -/
structure IsLongestOf {α : Type} (p : α → Prop) (whole begun : List α) : Prop where
  begins : begun <+: whole
  holds : ∀ x ∈ begun, p x
  longest : ∀ other, other <+: whole → (∀ x ∈ other, p x) → other <+: begun

/-- A text is read as an integer of the type of statuses, in base ten. -/
def IsReadAs (text : String) (n : Int) : Prop :=
  (Attempt.integer .status .ten text).run = .ok (.integer n)

/-- A text cannot be read as such an integer, and its failure is displayed as a message. -/
def IsRefusedWith (text message : String) : Prop :=
  ∃ failure, (Attempt.integer .status .ten text).run = .error failure ∧
    Describable.display? failure = some message

/-! ## Longest beginnings -/

section Longest

variable {α : Type} {p : α → Prop} {begun : List α}

theorem isLongestOf_self (hbegun : ∀ x ∈ begun, p x) : IsLongestOf p begun begun where
  begins := List.prefix_rfl
  holds := hbegun
  longest _ hother _ := hother

/-- A beginning cannot be longer where an element without the property stands behind it. -/
theorem isLongestOf_append_cons (hbegun : ∀ x ∈ begun, p x) {first : α} (hfirst : ¬ p first)
    (later : List α) : IsLongestOf p (begun ++ first :: later) begun where
  begins := List.prefix_append _ _
  holds := hbegun
  longest other hother hholds := by
    have hnext : begun ++ [first] <+: begun ++ first :: later :=
      (List.prefix_append_right_inj begun).mpr (List.prefix_append [first] later)
    rcases List.prefix_or_prefix_of_prefix hother hnext with hshort | hlong
    · rcases List.prefix_concat_iff.mp hshort with rfl | hbegins
      · exact absurd (hholds first (by simp)) hfirst
      · exact hbegins
    · exact absurd (hholds first (hlong.subset (by simp))) hfirst

end Longest

/-! ## One turn -/

section Turn

variable {text message : String} {n : Int}

theorem isReadAs_iff :
    IsReadAs text n ↔ Numeral.readDecimal .status text.toList = .ok n := by
  show ((Numeral.readDecimal .status text.toList).map Success.integer).mapError
    Failure.numeral = _ ↔ _
  cases Numeral.readDecimal .status text.toList <;> simp [Except.map, Except.mapError]

theorem isRefusedWith_iff :
    IsRefusedWith text message ↔
      ∃ error, Numeral.readDecimal .status text.toList = .error error ∧
        error.message = message := by
  show (∃ failure, ((Numeral.readDecimal .status text.toList).map Success.integer).mapError
    Failure.numeral = _ ∧ _) ↔ _
  cases Numeral.readDecimal .status text.toList <;>
    simp [Except.map, Except.mapError, Describable.display?, Failure.display?]

theorem exists_isReadAs_or_isRefusedWith (text : String) :
    (∃ n, IsReadAs text n) ∨ ∃ message, IsRefusedWith text message := by
  cases h : Numeral.readDecimal .status text.toList with
  | ok n => exact .inl ⟨n, isReadAs_iff.mpr h⟩
  | error error => exact .inr ⟨error.message, isRefusedWith_iff.mpr ⟨error, h, rfl⟩⟩

theorem IsRefusedWith.not_isReadAs (h : IsRefusedWith text message) : ¬ ∃ n, IsReadAs text n := by
  rintro ⟨n, hread⟩
  obtain ⟨failure, hfailure, -⟩ := h
  exact nomatch hfailure.symm.trans hread

theorem IsReadAs.readTagged_eq (h : IsReadAs text n) (status : Int32) :
    readTagged status text = .ok n := by
  rw [readTagged, isReadAs_iff.mp h]

theorem IsRefusedWith.readTagged_eq (h : IsRefusedWith text message) (status : Int32) :
    readTagged status text = .error ⟨status, message⟩ := by
  obtain ⟨error, herror, rfl⟩ := isRefusedWith_iff.mp h
  rw [readTagged, herror]

/-- **One turn is a reading with a status**, as a strict stage gives it to a failure. -/
theorem readWithStatus_eq_readTagged (status : Int32) (text : String) :
    readWithStatus .status status text = .ok ((readTagged status text).map .integer) := by
  rw [readTagged]
  cases h : Numeral.readDecimal .status text.toList with
  | ok n => exact readWithStatus_of_ok h status
  | error error => exact readWithStatus_of_error h status

end Turn

/-! ## All turns -/

section Turns

variable {text message : String} {n : Int}

theorem readInTurn_cons_of_isReadAs (h : IsReadAs text n) (status : Int32)
    (texts : List String) :
    readInTurn status (text :: texts) =
      ⟨n :: (readInTurn (status + 1) texts).done, (readInTurn (status + 1) texts).stopped⟩ := by
  rw [readInTurn, h.readTagged_eq]

/-- A text that is refused ends the reading, whatever stands behind it. -/
theorem readInTurn_cons_of_isRefusedWith (h : IsRefusedWith text message) (status : Int32)
    (texts : List String) :
    readInTurn status (text :: texts) = ⟨[], some ⟨status, message⟩⟩ := by
  rw [readInTurn, h.readTagged_eq]

/-- **What stands behind texts that are read** is read with a status that is greater by
their number. -/
theorem readInTurn_append {begun : List String} {ns : List Int}
    (hbegun : List.Forall₂ IsReadAs begun ns) (status : Int32) (rest : List String) :
    readInTurn status (begun ++ rest) =
      ⟨ns ++ (readInTurn (status + .ofNat begun.length) rest).done,
        (readInTurn (status + .ofNat begun.length) rest).stopped⟩ := by
  induction hbegun generalizing status with
  | nil =>
      show readInTurn status rest =
        ⟨(readInTurn (status + 0) rest).done, (readInTurn (status + 0) rest).stopped⟩
      rw [Int32.add_zero]
  | @cons text n begun ns hread _ ih =>
      have hstatus : status + 1 + .ofNat begun.length = status + .ofNat (begun.length + 1) := by
        rw [Int32.ofNat_add, Int32.add_assoc, Int32.add_comm 1]
        rfl
      rw [List.cons_append, readInTurn_cons_of_isReadAs hread, ih, hstatus]
      rfl

/-- Of any texts, some are read, and the first one behind them, if there is one, is refused. -/
theorem exists_forall₂_isReadAs (texts : List String) :
    ∃ begun ns, List.Forall₂ IsReadAs begun ns ∧
      (texts = begun ∨ ∃ first later message,
        texts = begun ++ first :: later ∧ IsRefusedWith first message) := by
  induction texts with
  | nil => exact ⟨[], [], .nil, .inl rfl⟩
  | cons text texts ih =>
      rcases exists_isReadAs_or_isRefusedWith text with ⟨n, hread⟩ | ⟨message, hrefused⟩
      · obtain ⟨begun, ns, hbegun, rfl | ⟨first, later, message, rfl, hrefused⟩⟩ := ih
        · exact ⟨_, _, .cons hread hbegun, .inl rfl⟩
        · exact ⟨_, _, .cons hread hbegun, .inr ⟨first, later, message, rfl, hrefused⟩⟩
      · exact ⟨[], [], .nil, .inr ⟨text, texts, message, rfl, hrefused⟩⟩

/-- Texts that are all read leave no fault. -/
theorem readInTurn_of_forall₂ {begun : List String} {ns : List Int}
    (hbegun : List.Forall₂ IsReadAs begun ns) (status : Int32) :
    readInTurn status begun = ⟨ns, none⟩ := by
  have hread := readInTurn_append hbegun status []
  rwa [List.append_nil, readInTurn, List.append_nil] at hread

/-- **The first text that is refused gives its failure and the status of its place**, and no
text behind it matters. -/
theorem readInTurn_append_cons {begun : List String} {ns : List Int}
    (hbegun : List.Forall₂ IsReadAs begun ns) (hrefused : IsRefusedWith text message)
    (status : Int32) (later : List String) :
    readInTurn status (begun ++ text :: later) =
      ⟨ns, some ⟨status + .ofNat begun.length, message⟩⟩ := by
  rw [readInTurn_append hbegun, readInTurn_cons_of_isRefusedWith hrefused, List.append_nil]

end Turns

/-! ## Statuses that wrap round -/

theorem toInt_add_ofNat (status : Int32) (n : Nat) :
    (status + .ofNat n).toInt = (status.toInt + n).bmod 4294967296 := by
  rw [Int32.toInt_add, Int32.toInt_ofNat']
  exact Int.add_bmod_bmod

/-- How far a status was moved is found again, unless it was moved once round or further. -/
theorem bmod_sub_emod (base : Int) {n : Nat} (hn : n < 4294967296) :
    ((base + n).bmod 4294967296 - base) % 4294967296 = n := by
  have hmod : (base + n).bmod 4294967296 % 4294967296 = (base + n) % 4294967296 :=
    Int.bmod_emod
  omega

/-- **Reading in turn reports the first failure and nothing else.**

The integers gathered are those of the longest beginning of the texts in which every text
is read, in the same order, and nothing stopped the reading exactly if this is all of them.
Otherwise it was stopped by the text behind that beginning: its failure is displayed in the
message, the status is the base status moved on by the number of texts in front of it,
wrapping round, and a strict stage with this status makes the same fault of it.  Other texts
behind it change nothing.  If there are no more texts than statuses, the distance of the two
statuses is the place of the text. -/
theorem reading_in_turn_stops_at_first_failure (base : Int32) (texts : List String) :
    ∃ begun, IsLongestOf (fun text => ∃ n, IsReadAs text n) texts begun ∧
      List.Forall₂ IsReadAs begun (readInTurn base texts).done ∧
      ((readInTurn base texts).stopped = none ↔ begun = texts) ∧
      ∀ e, (readInTurn base texts).stopped = some e →
        e.status.toInt = (base.toInt + begun.length).bmod 4294967296 ∧
        ∃ first later, texts = begun ++ first :: later ∧
          IsRefusedWith first e.message ∧
          readWithStatus .status e.status first = .ok (.error e) ∧
          (∀ others, readInTurn base (begun ++ first :: others) = readInTurn base texts) ∧
          (texts.length ≤ 4294967296 →
            (e.status.toInt - base.toInt) % 4294967296 = begun.length) := by
  obtain ⟨begun, ns, hbegun, hend⟩ := exists_forall₂_isReadAs texts
  have hread : ∀ text ∈ begun, ∃ n, IsReadAs text n :=
    ((List.forall₂_and_left begun ns).mp (hbegun.imp fun _ n h => ⟨⟨n, h⟩, h⟩)).1
  refine ⟨begun, ?_⟩
  rcases hend with rfl | ⟨first, later, message, rfl, hrefused⟩
  · rw [readInTurn_of_forall₂ hbegun]
    exact ⟨isLongestOf_self hread, hbegun, iff_of_true rfl rfl, fun e he => nomatch he⟩
  · rw [readInTurn_append_cons hbegun hrefused]
    refine ⟨isLongestOf_append_cons hread hrefused.not_isReadAs later, hbegun, ?_, ?_⟩
    · exact iff_of_false (Option.some_ne_none _) (by simp)
    · intro e he
      obtain rfl := Option.some.inj he
      have hstatus := toInt_add_ofNat base begun.length
      refine ⟨hstatus, first, later, rfl, hrefused, ?_, ?_, ?_⟩
      · rw [readWithStatus_eq_readTagged, hrefused.readTagged_eq]
        rfl
      · intro others
        exact readInTurn_append_cons hbegun hrefused base others
      · intro hlength
        have hplace : begun.length < 4294967296 := by
          rw [List.length_append, List.length_cons] at hlength
          omega
        rw [hstatus, bmod_sub_emod base.toInt hplace]

/-- Behind the greatest status comes the least one, and it leads back to the second text. -/
theorem reading_stops_behind_greatest_status :
    ["+7", "x", "8"].length ≤ 4294967296 ∧
      ∃ e, (readInTurn 2147483647 ["+7", "x", "8"]).stopped = some e ∧
        e.status.toInt = -2147483648 ∧ (e.status.toInt - 2147483647) % 4294967296 = 1 := by
  have hlength : ["+7", "x", "8"].length ≤ 4294967296 := by decide
  obtain ⟨begun, -, hdone, -, hstopped⟩ :=
    reading_in_turn_stops_at_first_failure 2147483647 ["+7", "x", "8"]
  have hrun : readInTurn 2147483647 ["+7", "x", "8"] =
      ⟨[7], some ⟨-2147483648, "invalid digit found in string"⟩⟩ := by decide
  rw [hrun] at hdone hstopped ⊢
  obtain ⟨hstatus, first, later, -, -, -, -, hplace⟩ := hstopped _ rfl
  have hone : begun.length = 1 := hdone.length_eq
  rw [hone] at hstatus hplace
  exact ⟨hlength, _, rfl, hstatus, hplace hlength⟩

end Faults
