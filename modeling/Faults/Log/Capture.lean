import Faults.Log.Logger

/-!
# Drains

A drain serializes the records of a history on its sink.  It may go on with each
record from the state in which the one before left the sink, and then notes how each
of them ended (`LogLibrary.drain`).  Or it keeps each record apart, as a capturing
drain does: of each record that is severe enough its severity, message and tag and
the emissions that its sink took (`LogLibrary.captures`).

The sink of a capturing drain takes failures in no way of its own, so it receives a
failure as its text.  It may refuse a key; then the emissions before that key are
kept, with the refusal.
-/

namespace Faults

/-- Why a sink refuses an emission. -/
inductive Refusal where
  /-- For no reason that it gives. -/
  | other
  /-- A value could not be formatted; the reason is lost on the way. -/
  | formatting
  /-- The device behind the sink failed. -/
  | device (reason : String)
  deriving DecidableEq, Repr

def Refusal.report : Refusal → String
  | other => "other"
  | formatting => "other"
  | device reason => "io: " ++ reason

/-- Keeps emissions in order, and may refuse those of one key. -/
def keepEmission (refused : Option (String × Refusal)) (emission : Emission) :
    Refusable Refusal (List Emission) Unit :=
  match refused with
  | some (key, refusal) =>
    if emission.key = key then throw refusal else modify (· ++ [emission])
  | none => modify (· ++ [emission])

/-- What a computation leaves in a sink that was empty, and how it ended. -/
structure Kept where
  emissions : List Emission
  /-- The refusal that ended it, if one did. -/
  refusal : Option Refusal
  deriving DecidableEq, Repr

/-- Runs a computation on an empty sink. -/
def Kept.of (serialize : Refusable Refusal (List Emission) Unit) : Kept :=
  match serialize.run [] with
  | .ok _ emissions => ⟨emissions, none⟩
  | .error refusal emissions => ⟨emissions, some refusal⟩

/-- A record as a capturing drain keeps it. -/
structure Captured where
  severity : Severity
  message : String
  tag : String
  kept : Kept
  deriving DecidableEq, Repr

namespace LogLibrary

variable (L : LogLibrary)

section Drain

variable {ε σ : Type} (sink : Sink ε σ)

/-- What a drain does at a step: it notes nothing, or how a record ended, and leaves the
sink in a state. -/
def serve (loggers : List L.Logger) (s : σ) (step : LogStep) : Option (Except ε Unit) × σ :=
  match L.logged? loggers step with
  | none => (none, s)
  | some r =>
    match (L.serialize sink r).run s with
    | .ok _ s' => (some (.ok ()), s')
    | .error refusal s' => (some (.error refusal), s')

/-- What a drain notes at each step of a history, and the state of the sink at its end. -/
def drain (loggers : List L.Logger) (s : σ) : List LogStep → List (Option (Except ε Unit)) × σ
  | [] => ([], s)
  | step :: steps =>
    let (ending, s) := L.serve sink loggers s step
    let (endings, s) := drain (L.next loggers step) s steps
    (ending :: endings, s)

theorem drain_cons (loggers : List L.Logger) (s : σ) (step : LogStep) (steps : List LogStep) :
    L.drain sink loggers s (step :: steps) =
      ((L.serve sink loggers s step).1 ::
        (L.drain sink (L.next loggers step) (L.serve sink loggers s step).2 steps).1,
      (L.drain sink (L.next loggers step) (L.serve sink loggers s step).2 steps).2) :=
  rfl

end Drain

/-- A sink that takes emissions only: a failure, behind which there is no other, reaches
it as a text. -/
def plainly {ε σ : Type} (take : Emission → Refusable ε σ Unit) : Sink ε σ
  | .value emission => take emission
  | .failure key e => take ⟨key, .rendered (L.describe e.canonical [])⟩

/-- A sink that keeps emissions in order, and may refuse those of one key. -/
def keepExcept (refused : Option (String × Refusal)) : Sink Refusal (List Emission) :=
  L.plainly (keepEmission refused)

/-- What a capturing drain keeps of a record: nothing if it is less severe than
the least severity asked for. -/
def capture? (least : Severity) (refused : Option (String × Refusal)) (r : Record L.Logger) :
    Option Captured :=
  if least.rank < r.severity.rank then none
  else some
    { severity := r.severity, message := r.message, tag := r.tag
      kept := .of (L.serialize (L.keepExcept refused) r) }

/-- What a capturing drain keeps at each step of a history: nothing where no record
is logged. -/
def captures (least : Severity) (refused : Option (String × Refusal)) (loggers : List L.Logger) :
    List LogStep → List (Option Captured)
  | [] => []
  | step :: steps =>
    (L.logged? loggers step).bind (L.capture? least refused) ::
      captures least refused (L.next loggers step) steps

end LogLibrary

end Faults
