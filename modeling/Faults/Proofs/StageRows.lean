import Faults.Tagging.Stage
import Mathlib.Data.List.Basic

/-!
# Rows of stages

Stages are put in a row on the result of an operation.  A strict stage displays
the failure that it meets, a lazy one words it, and either makes a fault, which
the next stage meets.  Which texts are asked for on the way, which faults are
made and whether all of it ends in an abort is told here by relations that
know no order of evaluation, and `Stage.runAll` is shown to follow them.

Only the failure of the operation itself may refuse to be displayed: behind the
first stage there are faults alone.  So a row whose lazy stages word everything
they meet is aborted in one way only, by a strict stage that comes first.

* `Stage.Makes`, `Stage.MakeInTurn` — the fault that a stage makes, and the faults
  that stages make in turn;
* `Stage.runLater_of_makeInTurn` — a row is carried out as they say, and each
  stage asks for one text of the failure that it meets;
* `Stage.exists_makeInTurn` — behind the first stage nothing is refused;
* `Stage.apply_relaxed`, `Row.results_run_relaxedAt` — a lazy stage that displays
  stands for a strict one, wherever it is put;
* `strict_and_lazy_rows_agree` — all of it for rows of any length.
-/

namespace Faults

theorem Event.isWorded_map {ε φ : Type} (f : ε → φ) (event : Event ε) :
    (event.map f).isWorded = event.isWorded := by
  cases event <;> rfl

namespace Stage

section Stages

variable {ε α : Type} [Describable ε]

/-- The fault that a stage makes of a failure. -/
inductive Makes (failure : ε) : Stage ε → Fault → Prop
  | strict (status : Int32) {text : String} (h : Describable.display? failure = some text) :
      Makes failure (.strict status) ⟨status, text⟩
  | lazily (status : Int32) {wording : ε → Except Abort String} {text : String}
      (h : wording failure = .ok text) : Makes failure (.lazily status wording) ⟨status, text⟩

/-- The faults that stages make in turn, each of the fault before it. -/
inductive MakeInTurn : Fault → List (Stage Fault) → List Fault → Prop
  | nil (e : Fault) : MakeInTurn e [] []
  | cons {e f : Fault} {stage : Stage Fault} {stages : List (Stage Fault)} {fs : List Fault}
      (h : stage.Makes e f) (tail : MakeInTurn f stages fs) :
      MakeInTurn e (stage :: stages) (f :: fs)

/-- Whatever the failure, the wording of the stage yields a text, if the stage has one. -/
def IsTotal : Stage ε → Prop
  | strict _ => True
  | lazily _ wording => ∀ failure, ∃ text, wording failure = .ok text

def isLazy : Stage ε → Bool
  | strict _ => false
  | lazily _ _ => true

/-- A lazy stage in place of a strict one: it displays the failure itself. -/
def relaxed : Stage ε → Stage ε
  | strict status => lazily status Describable.displayed
  | lazily status wording => lazily status wording

/-- Lazy stages in place of the strict ones at chosen positions. -/
def relaxedAt (chosen : Nat → Bool) (stages : List (Stage ε)) : List (Stage ε) :=
  stages.mapIdx fun i stage => if chosen i then stage.relaxed else stage

/-! ## One stage -/

theorem Makes.status_eq {failure : ε} {stage : Stage ε} {e : Fault}
    (h : Makes failure stage e) : e.status = stage.status := by
  cases h <;> rfl

theorem Makes.message_eq {failure : ε} {stage : Stage ε} {e : Fault}
    (h : Makes failure stage e) : stage.message failure = .ok e.message := by
  cases h with
  | strict status h => simp only [message, word, Describable.displayed, h]
  | lazily status h => exact h

theorem Makes.apply_eq {failure : ε} {stage : Stage ε} {e : Fault}
    (h : Makes failure stage e) :
    stage.apply (.error failure : Except ε α) = .ok (.error e) := by
  rw [apply_error, h.message_eq, ← h.status_eq]
  rfl

/-- A stage that words everything makes a fault of each failure that it can display. -/
theorem IsTotal.exists_makes {stage : Stage ε} (htotal : stage.IsTotal) {failure : ε}
    (hdisplay : ∀ status, stage = .strict status →
      ∃ text, Describable.display? failure = some text) :
    ∃ e, stage.Makes failure e := by
  cases stage with
  | strict status =>
      obtain ⟨text, htext⟩ := hdisplay status rfl
      exact ⟨_, .strict status htext⟩
  | lazily status wording =>
      obtain ⟨text, htext⟩ := htotal failure
      exact ⟨_, .lazily status htext⟩

/-- **A lazy stage that displays stands for a strict one**: the result is the same, and
so is the abort. -/
theorem apply_relaxed (stage : Stage ε) (result : Except ε α) :
    stage.relaxed.apply result = stage.apply result := by
  cases stage with
  | strict status => cases result <;> rfl
  | lazily status wording => rfl

end Stages

/-! ## Stages behind the first -/

section Later

variable {α : Type}

/-- A fault can always be displayed. -/
theorem displayed_fault (e : Fault) : Describable.displayed e = .ok e.canonical :=
  rfl

theorem IsTotal.exists_makes_fault {stage : Stage Fault} (htotal : stage.IsTotal) (e : Fault) :
    ∃ f, stage.Makes e f :=
  htotal.exists_makes fun _ _ => ⟨e.canonical, rfl⟩

/-- **Behind the first stage nothing is refused.** -/
theorem exists_makeInTurn {stages : List (Stage Fault)}
    (htotal : ∀ stage ∈ stages, stage.IsTotal) (e : Fault) : ∃ fs, MakeInTurn e stages fs := by
  induction stages generalizing e with
  | nil => exact ⟨[], .nil e⟩
  | cons stage stages ih =>
      obtain ⟨f, hf⟩ := (htotal stage List.mem_cons_self).exists_makes_fault e
      have hlater : ∀ stage ∈ stages, stage.IsTotal :=
        fun other hother => htotal other (List.mem_cons_of_mem stage hother)
      obtain ⟨fs, hfs⟩ := ih hlater f
      exact ⟨f :: fs, .cons hf hfs⟩

theorem MakeInTurn.map_status {e : Fault} {stages : List (Stage Fault)} {fs : List Fault}
    (h : MakeInTurn e stages fs) : fs.map Fault.status = stages.map status := by
  induction h with
  | nil e => rfl
  | cons h tail ih => rw [List.map_cons, List.map_cons, ih, h.status_eq]

/-- A row is carried out as the relation says, and each stage asks for one text of
the fault that it meets. -/
theorem runLater_of_makeInTurn {e : Fault} {stages : List (Stage Fault)} {fs : List Fault}
    (h : MakeInTurn e stages fs) :
    runLater stages (.error e : Except Fault α) =
      ⟨List.zipWith event stages (e :: fs), .ok (fs.map .error)⟩ := by
  induction h with
  | nil e => rfl
  | cons h tail ih =>
      rw [runLater_cons, h.apply_eq]
      simp only [ih]
      rfl

/-- The wordings that are asked are those of the lazy stages, each of them once. -/
theorem MakeInTurn.map_isWorded {e : Fault} {stages : List (Stage Fault)} {fs : List Fault}
    (h : MakeInTurn e stages fs) :
    (List.zipWith event stages (e :: fs)).map Event.isWorded = stages.map isLazy := by
  induction h with
  | nil e => rfl
  | @cons e f stage stages fs h tail ih =>
      rw [List.zipWith_cons_cons, List.map_cons, ih, List.map_cons]
      cases stage <;> rfl

/-- A success passes all stages, and none of them asks for anything. -/
theorem runLater_ok (stages : List (Stage Fault)) (value : α) :
    runLater stages (.ok value) = ⟨[], .ok (List.replicate stages.length (.ok value))⟩ := by
  induction stages with
  | nil => rfl
  | cons stage stages ih =>
      rw [runLater_cons, apply_ok]
      simp only [ih]
      rfl

theorem results_runLater_relaxedAt (chosen : Nat → Bool) (stages : List (Stage Fault))
    (result : Except Fault α) :
    (runLater (relaxedAt chosen stages) result).results = (runLater stages result).results := by
  induction stages generalizing chosen result with
  | nil => rfl
  | cons stage stages ih =>
      have happly : (if chosen 0 then stage.relaxed else stage).apply result =
          stage.apply result := by
        split
        · exact apply_relaxed stage result
        · rfl
      rw [relaxedAt, List.mapIdx_cons, runLater_cons, runLater_cons, happly]
      cases stage.apply result with
      | error abort => rfl
      | ok tagged =>
          show ((runLater (relaxedAt (fun i => chosen (i + 1)) stages) tagged).results).map _ = _
          rw [ih]

end Later

end Stage

/-! ## Rows -/

/-- Stages in a row on the result of an operation: none, or a first one that meets
the failure of the operation, and others that each meet the fault of the one before. -/
inductive Row (ε : Type) where
  | empty
  | stages (first : Stage ε) (others : List (Stage Fault))

namespace Row

variable {ε α : Type} [Describable ε]

def statuses : Row ε → List Int32
  | empty => []
  | stages first others => first.status :: others.map Stage.status

/-- Which of the stages are lazy. -/
def lazies : Row ε → List Bool
  | empty => []
  | stages first others => first.isLazy :: others.map Stage.isLazy

/-- The wordings in the row yield a text for whatever they are given. -/
def IsTotal : Row ε → Prop
  | empty => True
  | stages first others => first.IsTotal ∧ ∀ stage ∈ others, stage.IsTotal

/-- The faults that the stages make of a failure, one by one. -/
def Make (failure : ε) : Row ε → List Fault → Prop
  | empty, faults => faults = []
  | stages first others, faults =>
    ∃ e later, faults = e :: later ∧ first.Makes failure e ∧ Stage.MakeInTurn e others later

/-- The texts that the stages ask for when they make these faults: the first one asks
the failure of the operation, and each other one the fault of the stage before it. -/
def asked (failure : ε) (faults : List Fault) : Row ε → List (Event (ε ⊕ Fault))
  | empty => []
  | stages first others =>
    (first.event failure).map .inl :: (List.zipWith Stage.event others faults).map (.map .inr)

/-- A strict stage comes first, and the failure refuses to be displayed. -/
def IsRefusedBy (failure : ε) (row : Row ε) : Prop :=
  Describable.display? failure = none ∧ ∃ status others, row = .stages (.strict status) others

/-- What a row did, with the result after each stage. -/
def run (row : Row ε) (result : Except ε α) : Report (ε ⊕ Fault) α :=
  match row with
  | empty => ⟨[], .ok []⟩
  | stages first others => Stage.runAll first others result

/-- The result behind the last stage; without a stage it is that of the operation. -/
def value (row : Row ε) (result : Except ε α) : Except Abort (Except (ε ⊕ Fault) α) :=
  (row.run result).results.map fun results =>
    match results.getLast? with
    | some tagged => tagged.mapError .inr
    | none => result.mapError .inl

/-- Lazy stages that display, in place of the strict ones at chosen positions. -/
def relaxedAt (chosen : Nat → Bool) : Row ε → Row ε
  | empty => .empty
  | stages first others =>
    .stages (if chosen 0 then first.relaxed else first)
      (Stage.relaxedAt (fun i => chosen (i + 1)) others)

theorem run_ok (row : Row ε) (value : α) :
    row.run (.ok value) =
      ⟨[], .ok (List.replicate row.statuses.length (.ok value))⟩ := by
  cases row with
  | empty => rfl
  | stages first others =>
      rw [run, Stage.runAll_eq, Stage.apply_ok]
      simp only [Stage.runLater_ok]
      simp [Stage.events, Stage.carryOut, statuses, Except.map, List.replicate_succ]

theorem value_ok (row : Row ε) (value : α) : row.value (.ok value) = .ok (.ok value) := by
  rw [Row.value, run_ok]
  cases row with
  | empty => rfl
  | stages first others =>
      simp [statuses, Except.map, List.getLast?_replicate, Except.mapError]

theorem Make.map_status {row : Row ε} {failure : ε} {faults : List Fault}
    (h : row.Make failure faults) : faults.map Fault.status = row.statuses := by
  cases row with
  | empty =>
      rw [show faults = [] from h]
      rfl
  | stages first others =>
      obtain ⟨e, later, rfl, hfirst, hlater⟩ := h
      rw [List.map_cons, hlater.map_status, hfirst.status_eq]
      rfl

/-- Each lazy stage words one failure, and no strict stage does. -/
theorem Make.map_isWorded {row : Row ε} {failure : ε} {faults : List Fault}
    (h : row.Make failure faults) :
    (row.asked failure faults).map Event.isWorded = row.lazies := by
  cases row with
  | empty => rfl
  | stages first others =>
      obtain ⟨e, later, rfl, -, hlater⟩ := h
      have hview : Event.isWorded ∘ Event.map (Sum.inr : Fault → ε ⊕ Fault) = Event.isWorded :=
        funext (Event.isWorded_map Sum.inr)
      rw [asked, List.map_cons, Event.isWorded_map, List.map_map, hview, hlater.map_isWorded]
      cases first <;> rfl

/-- A row is carried out as the relation says. -/
theorem Make.run_eq {row : Row ε} {failure : ε} {faults : List Fault}
    (h : row.Make failure faults) :
    row.run (.error failure : Except ε α) =
      ⟨row.asked failure faults, .ok (faults.map .error)⟩ := by
  cases row with
  | empty =>
      rw [show faults = [] from h]
      rfl
  | stages first others =>
      obtain ⟨e, later, rfl, hfirst, hlater⟩ := h
      rw [run, Stage.runAll_eq, hfirst.apply_eq]
      simp only [Stage.runLater_of_makeInTurn hlater]
      rfl

theorem Make.value_eq {row : Row ε} {failure : ε} {faults : List Fault}
    (h : row.Make failure faults) :
    row.value (.error failure : Except ε α) =
      .ok (.error ((faults.getLast?.map .inr).getD (.inl failure))) := by
  rw [value, h.run_eq]
  simp only [Except.map, List.getLast?_map]
  cases faults.getLast? <;> rfl

/-- A failure that is not refused is made into faults. -/
theorem IsTotal.exists_make {row : Row ε} (htotal : row.IsTotal) {failure : ε}
    (haccepted : ¬ row.IsRefusedBy failure) : ∃ faults, row.Make failure faults := by
  cases row with
  | empty => exact ⟨[], rfl⟩
  | stages first others =>
      have hdisplay : ∀ status, first = .strict status →
          ∃ text, Describable.display? failure = some text := by
        rintro status rfl
        rw [← Option.ne_none_iff_exists']
        exact fun hnone => haccepted ⟨hnone, status, others, rfl⟩
      obtain ⟨e, he⟩ := htotal.1.exists_makes hdisplay
      obtain ⟨later, hlater⟩ := Stage.exists_makeInTurn htotal.2 e
      exact ⟨e :: later, e, later, rfl, he, hlater⟩

/-- A refused failure ends the row at its first stage, and no wording is asked. -/
theorem IsRefusedBy.run_eq {row : Row ε} {failure : ε} (h : row.IsRefusedBy failure) :
    row.run (.error failure : Except ε α) =
      ⟨[.displayed (.inl failure)], .error .displayFailed⟩ := by
  obtain ⟨hdisplay, status, others, rfl⟩ := h
  have happly : (Stage.strict status).apply (.error failure : Except ε α) =
      .error .displayFailed := by
    have hmessage : (Stage.strict status).message failure = .error .displayFailed := by
      simp only [Stage.message, Stage.word, Describable.displayed, hdisplay]
    rw [Stage.apply_error, hmessage]
    rfl
  rw [run, Stage.runAll_eq, happly]
  rfl

/-- **A row is aborted in one way only.** -/
theorem IsTotal.results_eq_error_iff {row : Row ε} (htotal : row.IsTotal)
    {result : Except ε α} {abort : Abort} :
    (row.run result).results = .error abort ↔
      abort = .displayFailed ∧ ∃ failure, result = .error failure ∧ row.IsRefusedBy failure := by
  cases result with
  | ok value =>
      rw [run_ok]
      simp
  | error failure =>
      by_cases hrefused : row.IsRefusedBy failure
      · rw [hrefused.run_eq]
        simp [hrefused, eq_comm]
      · obtain ⟨faults, hmake⟩ := htotal.exists_make hrefused
        rw [hmake.run_eq]
        simp [hrefused]

theorem results_run_relaxedAt (chosen : Nat → Bool) (row : Row ε) (result : Except ε α) :
    ((row.relaxedAt chosen).run result).results = (row.run result).results := by
  cases row with
  | empty => rfl
  | stages first others =>
      have happly : (if chosen 0 then first.relaxed else first).apply result =
          first.apply result := by
        split
        · exact Stage.apply_relaxed first result
        · rfl
      rw [relaxedAt, run, run, Stage.runAll_eq, Stage.runAll_eq, happly]
      cases first.apply result with
      | error abort => rfl
      | ok tagged =>
          show ((Stage.runLater (Stage.relaxedAt _ others) tagged).results).map _ = _
          rw [Stage.results_runLater_relaxedAt]

end Row

/-- **Strict and lazy stages agree, and only the first stage can be aborted.**  Take a row
of stages of any length, whose lazy stages word whatever they are given.

* A success passes it, and nothing is asked for.
* A failure is made into faults one by one, unless it is refused: there is one
  fault for each stage, with the status of the stage; each stage asks for one
  text, in the order of the stages, the first one of the failure and each other one of
  the fault before it, so that each wording is asked once; and the last fault is
  the result.
* A failure is refused when a strict stage comes first and displaying it fails.
  Then nothing else is asked for, and there is no result; and there is no other way to an
  abort, since a fault can always be displayed.
* Lazy stages that display may take the place of strict ones, at any positions:
  the results after the stages, the result in the end and the abort stay the same. -/
theorem strict_and_lazy_rows_agree {ε : Type} [Describable ε] (α : Type) {row : Row ε}
    (htotal : row.IsTotal) :
    (∀ value : α, (row.run (.ok value)).events = [] ∧ row.value (.ok value) = .ok (.ok value)) ∧
    (∀ failure : ε, ¬ row.IsRefusedBy failure →
      ∃ faults, row.Make failure faults ∧ faults.map Fault.status = row.statuses ∧
        (row.run (.error failure : Except ε α)).events = row.asked failure faults ∧
        (row.run (.error failure : Except ε α)).events.map Event.isWorded = row.lazies ∧
        (row.run (.error failure : Except ε α)).results = .ok (faults.map .error) ∧
        row.value (.error failure : Except ε α) =
          .ok (.error ((faults.getLast?.map .inr).getD (.inl failure)))) ∧
    (∀ failure : ε, row.IsRefusedBy failure →
      (row.run (.error failure : Except ε α)).events = [.displayed (.inl failure)]) ∧
    (∀ (result : Except ε α) (abort : Abort),
      row.value result = .error abort ↔ abort = .displayFailed ∧
        ∃ failure, result = .error failure ∧ row.IsRefusedBy failure) ∧
    (∀ e : Fault, Describable.displayed e = .ok e.canonical) ∧
    (∀ (chosen : Nat → Bool) (result : Except ε α),
      ((row.relaxedAt chosen).run result).results = (row.run result).results ∧
        (row.relaxedAt chosen).value result = row.value result) := by
  refine ⟨fun value => ⟨?_, row.value_ok value⟩, ?_, ?_, ?_, Stage.displayed_fault, ?_⟩
  · rw [row.run_ok]
  · intro failure haccepted
    obtain ⟨faults, hmake⟩ := htotal.exists_make haccepted
    refine ⟨faults, hmake, hmake.map_status, ?_, ?_, ?_, hmake.value_eq⟩
    · rw [hmake.run_eq]
    · rw [hmake.run_eq]
      exact hmake.map_isWorded
    · rw [hmake.run_eq]
  · intro failure hrefused
    rw [hrefused.run_eq]
  · intro result abort
    rw [← htotal.results_eq_error_iff, Row.value]
    cases (row.run result).results <;> simp [Except.map]
  · intro chosen result
    have hresults := row.results_run_relaxedAt chosen result
    refine ⟨hresults, ?_⟩
    rw [Row.value, Row.value, hresults]

/-- A strict stage, a lazy one that takes the message over, and another strict one: on
a failure with a text, and on one that cannot be displayed. -/
theorem rows_agree_on_undisplayable :
    let row : Row Failure := .stages (.strict 1) [.lazily 2 fun e => .ok e.message, .strict 3]
    row.IsTotal ∧
      row.value (.error (.text "x") : Except Failure Unit) =
        .ok (.error (.inr ⟨3, "errCode: 2, errMsg: x"⟩)) ∧
      (row.relaxedAt fun _ => true).value (.error (.text "x") : Except Failure Unit) =
        .ok (.error (.inr ⟨3, "errCode: 2, errMsg: x"⟩)) ∧
      (row.run (.error .undisplayable : Except Failure Unit)).events =
        [.displayed (.inl .undisplayable)] ∧
      row.value (.error .undisplayable : Except Failure Unit) = .error .displayFailed := by
  intro row
  have htotal : row.IsTotal := by
    refine ⟨trivial, ?_⟩
    simp [Stage.IsTotal]
  obtain ⟨-, -, hrefused, haborted, -, hrelaxed⟩ := strict_and_lazy_rows_agree Unit htotal
  have hnot : row.IsRefusedBy .undisplayable := ⟨rfl, 1, _, rfl⟩
  have hvalue : row.value (.error (.text "x") : Except Failure Unit) =
      .ok (.error (.inr ⟨3, "errCode: 2, errMsg: x"⟩)) := by decide
  refine ⟨htotal, hvalue, ?_, hrefused _ hnot, ?_⟩
  · rw [(hrelaxed _ _).2, hvalue]
  · exact (haborted _ _).mpr ⟨rfl, _, rfl, hnot⟩

end Faults
