import Faults.Log.Logger

/-!
# Drafts of steps

The action of a step may have to be prepared, as it takes along faults that are yet to
be built, and preparing it may fail.  Preparation waits until the step has its turn:
a step that names a logger which does not exist is not prepared at all, so that
nothing can fail about it, while a failure anywhere else ends the whole history.

`LogStepDraft.prepareAll` turns a history of drafts into one of steps.  It needs to
know how many loggers there are, and no more about them.  `runAll_of_prepareAll`
says that it makes no difference where there is nothing to fail.
-/

namespace Faults

/-- A step whose action is yet to be prepared. -/
structure LogStepDraft (ε : Type) where
  logger : Nat
  /-- The action, or why it cannot be prepared. -/
  action : Except ε LogAction

namespace LogStepDraft

variable {ε : Type}

/-- Prepares a history that begins with so many loggers.  A step whose logger does not
exist is never carried out, so any action will do for it. -/
def prepareAll (loggers : Nat) : List (LogStepDraft ε) → Except ε (List LogStep)
  | [] => .ok []
  | draft :: drafts =>
    if draft.logger < loggers then
      match draft.action with
      | .ok action =>
        (prepareAll (loggers + action.made) drafts).map (⟨draft.logger, action⟩ :: ·)
      | .error reason => .error reason
    else (prepareAll loggers drafts).map (⟨draft.logger, .child []⟩ :: ·)

/-- The draft of a step that needs no preparation. -/
def ofStep (step : LogStep) : LogStepDraft ε :=
  ⟨step.logger, .ok step.action⟩

/-- Steps that need no preparation can be prepared, and lead to the same as before. -/
theorem runAll_of_prepareAll (L : LogLibrary) (loggers : List L.Logger) (steps : List LogStep) :
    ∃ prepared, prepareAll loggers.length (steps.map (@ofStep ε)) = .ok prepared ∧
      L.runAll loggers prepared = L.runAll loggers steps := by
  induction steps generalizing loggers with
  | nil => exact ⟨[], rfl, rfl⟩
  | cons step steps ih =>
    by_cases present : step.logger < loggers.length
    · obtain ⟨prepared, ready, same⟩ :=
        ih (L.perform loggers loggers[step.logger] step.action).loggers
      rw [L.length_loggers_perform] at ready
      have found := List.getElem?_eq_getElem present
      refine ⟨step :: prepared, ?_, ?_⟩
      · simp [prepareAll, ofStep, present, ready, Except.map]
      · simp [LogLibrary.runAll, L.next_of_some found, same]
    · obtain ⟨prepared, ready, same⟩ := ih loggers
      have missing (action : LogAction) :
          loggers[(LogStep.mk step.logger action).logger]? = none :=
        List.getElem?_eq_none_iff.mpr (Nat.not_lt.mp present)
      refine ⟨⟨step.logger, .child []⟩ :: prepared, ?_, ?_⟩
      · simp [prepareAll, ofStep, present, ready, Except.map]
      · simp only [LogLibrary.runAll, L.run_of_none (missing _), L.next_of_none (missing _), same]

end LogStepDraft

end Faults
