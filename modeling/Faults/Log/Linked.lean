import Faults.Log.Capture

/-!
# Linked loggers

`LogLibrary.linked` is a library for logging in which a logger holds its pairs and a
link to its parent.  It is lawful (`linked_lawful`), and it is the one that is used.
-/

namespace Faults

/-- A logger with its way to the root. -/
inductive LinkedLogger where
  | root (pairs : List Pair)
  | child (pairs : List Pair) (parent : LinkedLogger)
  deriving Repr

/-- The loggers that there are, in the order of their making. -/
abbrev Loggers := List LinkedLogger

/-- The pairs of a logger, then those of the loggers above it. -/
def LinkedLogger.serialize {ε σ : Type} (hand : Pair → Refusable ε σ Unit) :
    LinkedLogger → Refusable ε σ Unit
  | root pairs => forM pairs hand
  | child pairs parent => do
    forM pairs hand
    parent.serialize hand

/-- A value in the form of its kind; one that serializes itself is left to do so. -/
def PairValue.serialize {ε σ : Type} (sink : Sink ε σ) (own : String → Fault → Refusable ε σ Unit)
    (key : String) : PairValue → Refusable ε σ Unit
  | text s => sink (.value ⟨key, .text s⟩)
  | int32 n => sink (.value ⟨key, .int32 n⟩)
  | int64 n => sink (.value ⟨key, .int64 n⟩)
  | truth b => sink (.value ⟨key, .truth b⟩)
  | character c => sink (.value ⟨key, .character c⟩)
  | unit => sink (.value ⟨key, .unit⟩)
  | optional (some n) => sink (.value ⟨key, .int32 n⟩)
  | optional none => sink (.value ⟨key, .absent⟩)
  | fault e => own key e
  | failure e => sink (.failure key e)

namespace LogLibrary

def linked : LogLibrary where
  Logger := LinkedLogger
  root := .root
  child := .child
  errorRecord logger message listed :=
    { severity := .error, tag := "", message, pairs := listed.reverse, logger }
  describe text behind := behind.foldl (fun described text => described ++ ": " ++ text) text
  serializeValue := PairValue.serialize
  serializePairs hand pairs := forM pairs hand
  serializeLogger := LinkedLogger.serialize
  serializeRecord hand r := do
    forM r.pairs hand
    r.logger.serialize hand

theorem linked_lawful : linked.Lawful where
  errorRecord_eq _ _ _ := rfl
  describe_nil _ := rfl
  value_text _ _ _ _ := rfl
  value_int32 _ _ _ _ := rfl
  value_int64 _ _ _ _ := rfl
  value_truth _ _ _ _ := rfl
  value_character _ _ _ _ := rfl
  value_unit _ _ _ := rfl
  value_some _ _ _ _ := rfl
  value_none _ _ _ := rfl
  value_fault _ _ _ _ := rfl
  value_failure _ _ _ _ := rfl
  pairs_nil _ := rfl
  pairs_cons _ _ _ := rfl
  logger_root _ _ := rfl
  logger_child _ _ _ := rfl
  record_eq _ _ := rfl

end LogLibrary

/-! ## What is done with it -/

/-- Serializes a pair. -/
def Pair.serialize {ε σ : Type} (sink : Sink ε σ) (pair : Pair) : Refusable ε σ Unit :=
  LogLibrary.linked.serializePair sink pair

/-- A sink that keeps emissions in order, and may refuse those of one key. -/
def keepExcept (refused : Option (String × Refusal)) : Sink Refusal (List Emission) :=
  LogLibrary.linked.keepExcept refused

/-- What comes of each step of a history. -/
def LogStep.runAll (loggers : Loggers) (steps : List LogStep) :
    List (Except Nat (LogOutcome LinkedLogger)) :=
  LogLibrary.linked.runAll loggers steps

/-- What a capturing drain keeps of what a step leads to. -/
def LogOutcome.captured? (least : Severity) (refused : Option (String × Refusal))
    (outcome : LogOutcome LinkedLogger) : Option Captured :=
  outcome.record.bind (LogLibrary.linked.capture? least refused)

end Faults
