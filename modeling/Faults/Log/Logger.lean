import Faults.Log.Library

/-!
# Loggers and records

Loggers form a tree.  Each has pairs of its own and, but for the root, a parent;
a record logged through it carries the record's own pairs, then the logger's, then
its parent's and so on up to the root.

The tree grows in steps (`LogStep`).  Loggers are numbered in the order of their
making, the root first; `run` carries out one step on the loggers there are, and
`runAll` a history of them.  A step that names a logger which does not exist changes
nothing.

All of it is done with a library for logging, `L`.  What is added to it is how a
fault is logged (`logFault`), how it is serialized, and what steps there are.
-/

namespace Faults

/-- What a step does with the logger that it names. -/
inductive LogAction where
  | child (pairs : List Pair)
  /-- Makes a logger below it, with a fault for its pairs. -/
  | childOf (e : Fault)
  | logFault (e : Fault)
  | log (severity : Severity) (tag message : String) (pairs : List Pair)
  deriving Repr

/-- How many loggers an action makes. -/
def LogAction.made : LogAction → Nat
  | child _ => 1
  | childOf _ => 1
  | logFault _ => 0
  | log _ _ _ _ => 0

/-- A step in the history of a tree of loggers. -/
structure LogStep where
  logger : Nat
  action : LogAction
  deriving Repr

structure LogOutcome (Λ : Type) where
  /-- The loggers that there are, in the order of their making. -/
  loggers : List Λ
  /-- The record that was logged, if one was. -/
  record : Option (Record Λ)

namespace LogLibrary

variable (L : LogLibrary)

section Serialize

variable {ε σ : Type} (sink : Sink ε σ)

def serializePair : Pair → Refusable ε σ Unit
  | .keyed key value => L.serializeValue sink (Fault.serializeValue sink) key value
  | .spread e => e.serialize sink

/-- A record with all pairs that it carries. -/
def serialize (r : Record L.Logger) : Refusable ε σ Unit :=
  L.serializeRecord (L.serializePair sink) r

end Serialize

/-- The record that logs a fault: it says the canonical text, and lists the status and
the message. -/
def logFault (logger : L.Logger) (e : Fault) : Record L.Logger :=
  L.errorRecord logger e.canonical
    [.keyed Fault.statusKey (.int32 e.status), .keyed Fault.messageKey (.text e.message)]

def perform (loggers : List L.Logger) (logger : L.Logger) : LogAction → LogOutcome L.Logger
  | .child pairs => ⟨loggers ++ [L.child pairs logger], none⟩
  | .childOf e => ⟨loggers ++ [L.child [.spread e] logger], none⟩
  | .logFault e => ⟨loggers, some (L.logFault logger e)⟩
  | .log severity tag message pairs =>
    ⟨loggers, some { severity, tag, message, pairs, logger }⟩

/-- An action adds as many loggers as it makes. -/
theorem length_loggers_perform (loggers : List L.Logger) (logger : L.Logger)
    (action : LogAction) :
    (L.perform loggers logger action).loggers.length = loggers.length + action.made := by
  cases action <;> simp [perform, LogAction.made]

/-- Carries out a step, or gives back the number of the logger that does not exist. -/
def run (loggers : List L.Logger) (step : LogStep) : Except Nat (LogOutcome L.Logger) :=
  match loggers[step.logger]? with
  | some logger => .ok (L.perform loggers logger step.action)
  | none => .error step.logger

/-- The loggers after a step; one that names no logger leaves them alone. -/
def next (loggers : List L.Logger) (step : LogStep) : List L.Logger :=
  match L.run loggers step with
  | .ok outcome => outcome.loggers
  | .error _ => loggers

/-- The record that a step logs, if it logs one. -/
def logged? (loggers : List L.Logger) (step : LogStep) : Option (Record L.Logger) :=
  match L.run loggers step with
  | .ok outcome => outcome.record
  | .error _ => none

section Steps

variable {loggers : List L.Logger} {step : LogStep} {logger : L.Logger}

theorem run_of_some (h : loggers[step.logger]? = some logger) :
    L.run loggers step = .ok (L.perform loggers logger step.action) := by
  rw [run, h]

theorem run_of_none (h : loggers[step.logger]? = none) :
    L.run loggers step = .error step.logger := by
  rw [run, h]

theorem next_of_some (h : loggers[step.logger]? = some logger) :
    L.next loggers step = (L.perform loggers logger step.action).loggers := by
  rw [next, L.run_of_some h]

theorem next_of_none (h : loggers[step.logger]? = none) : L.next loggers step = loggers := by
  rw [next, L.run_of_none h]

theorem logged?_of_some (h : loggers[step.logger]? = some logger) :
    L.logged? loggers step = (L.perform loggers logger step.action).record := by
  rw [logged?, L.run_of_some h]

theorem logged?_of_none (h : loggers[step.logger]? = none) : L.logged? loggers step = none := by
  rw [logged?, L.run_of_none h]

end Steps

def runAll (loggers : List L.Logger) : List LogStep → List (Except Nat (LogOutcome L.Logger))
  | [] => []
  | step :: steps => L.run loggers step :: runAll (L.next loggers step) steps

/-- The records of a history. -/
def records (loggers : List L.Logger) : List LogStep → List (Record L.Logger)
  | [] => []
  | step :: steps => (L.logged? loggers step).toList ++ records (L.next loggers step) steps

/-- The loggers after a history. -/
def grown (loggers : List L.Logger) (steps : List LogStep) : List L.Logger :=
  steps.foldl L.next loggers

end LogLibrary

end Faults
