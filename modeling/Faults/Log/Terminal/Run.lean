import Faults.Log.Console
import Faults.Log.Capture

/-!
# Running a terminal

A terminal writes each record on a line.  The line is a sink (`lineSink`): it takes
emissions one by one and puts each of them on the console; failures reach it as
texts.

A record is not written where it is logged.  Loggers hand it to a courier; a writer
of its own has a turn now and then, asks the courier for a record, and writes its
line with the time that it is by then.  When the writer has its turns is not said: a
history of a terminal is any interleaving of steps and turns of the writer (`Turn`).
When the last logger is gone, the lines of all records that are left are written.

A terminal with an invalid pattern dies on its first record and leaves a notice instead.
-/

namespace Faults

/-- What happens at a terminal. -/
inductive Terminal.Turn where
  | step (s : LogStep)
  /-- The writer asks for a record. -/
  | writing

def Terminal.Turn.step? : Terminal.Turn → Option LogStep
  | step s => some s
  | writing => none

/-- The steps among the turns of a terminal. -/
def Terminal.steps (turns : List Terminal.Turn) : List LogStep :=
  turns.filterMap Terminal.Turn.step?

theorem Terminal.steps_append (before after : List Terminal.Turn) :
    steps (before ++ after) = steps before ++ steps after :=
  List.filterMap_append

theorem Terminal.steps_cons_step (step : LogStep) (turns : List Terminal.Turn) :
    steps (.step step :: turns) = step :: steps turns :=
  rfl

namespace TerminalKit

variable (K : TerminalKit)

/-- The records that a terminal writes. -/
abbrev Record := Faults.Record K.log.Logger

/-- Puts emissions on a line. -/
def lineSink : Sink Empty K.console.Line :=
  K.log.plainly fun emission => modify fun line => K.console.put line emission

/-- The line of a record. -/
def line (timestamp : Text) (r : K.Record) : Text :=
  match (K.log.serialize K.lineSink r).run (K.console.start timestamp r.severity r.message) with
  | .ok _ line => K.console.finish line
  | .error refusal _ => nomatch refusal

variable (stamp : K.calendar.Time → Text) (clock : Nat → K.calendar.Time)

/-- The lines of records, the n-th of them written at the time `clock n`. -/
def lines (records : List K.Record) : Text :=
  (records.mapIdx fun n r => K.line (stamp (clock n)) r).flatten

/-- A terminal at work. -/
structure Session where
  loggers : List K.log.Logger
  /-- The courier with the records that it carries. -/
  carried : K.courier.State K.Record
  written : Text
  /-- How many lines that is. -/
  count : Nat

/-- A terminal whose root has the given pairs. -/
def begin (pairs : List Pair) : K.Session :=
  ⟨[K.log.root pairs], K.courier.start, [], 0⟩

def turn (session : K.Session) : Terminal.Turn → K.Session
  | .step step =>
    { session with
      loggers := K.log.next session.loggers step
      carried := match K.log.logged? session.loggers step with
        | some r => K.courier.accept session.carried r
        | none => session.carried }
  | .writing =>
    match K.courier.deliver session.carried with
    | some (r, carried) =>
      { session with
        carried
        written := session.written ++ K.line (stamp (clock session.count)) r
        count := session.count + 1 }
    | none => session

/-- All that is written once the last logger is gone. -/
def finish (session : K.Session) : Text :=
  session.written ++
    K.lines stamp (fun n => clock (session.count + n)) (K.courier.finish session.carried)

/-- All that a terminal writes that has had these turns. -/
def output (config : TerminalConfig) (clock : Nat → K.calendar.Time) (pairs : List Pair)
    (turns : List Terminal.Turn) : Text :=
  match K.calendar.stamp? config.timestampFormat.toList with
  | some stamp => K.finish stamp clock (turns.foldl (K.turn stamp clock) (K.begin pairs))
  | none =>
    match K.log.records [K.log.root pairs] (Terminal.steps turns) with
    | [] => []
    | _ :: _ => K.courier.notice

end TerminalKit

/-- A root logger whose records are written on a terminal. -/
structure TerminalLogger where
  config : TerminalConfig
  pairs : List Pair

namespace TerminalLogger

/-- One with pairs and the standard configuration. -/
def ofPairs (pairs : List Pair) : TerminalLogger :=
  ⟨.standard, pairs⟩

/-- One without pairs, in the standard configuration. -/
def plain : TerminalLogger :=
  ofPairs []

/-- All that its terminal writes. -/
def output (K : TerminalKit) (root : TerminalLogger) (clock : Nat → K.calendar.Time)
    (turns : List Terminal.Turn) : Text :=
  K.output root.config clock root.pairs turns

end TerminalLogger

end Faults
