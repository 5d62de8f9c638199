import Faults.Log.Library
import Faults.Numeral.Decimal

/-!
# What a terminal is made of

A terminal needs four things that are none of its own: a library for logging, a
console on which lines are written, a courier that carries records from where they
are logged to where they are written, and a calendar that writes times by patterns.
As with the library, each of them is what it can do (`Console`, `Courier`, `Calendar`),
and is known by laws:

* a console writes a timestamp, a severity and a message with spaces between, then
  each emission as `key: value` behind a comma and a space, unless nothing has been
  said yet, and ends the line; numbers are decimal, texts are written as they are;
* a courier delivers records in the order in which it accepted them, loses none while
  fewer than 128 are waiting, and delivers all that are left in the end;
* a calendar accepts the standard pattern.

`TerminalKit` is all four.  Which time it is where a terminal stands, and how far that is
from universal time, is a matter of the calendar, and so is which patterns are valid.
-/

namespace Faults

/-- What a console can do.  What has been written on a line, and whether a comma is due
before the next emission, can be seen at any time. -/
structure Console where
  Line : Type
  start (timestamp : Text) (severity : Severity) (message : String) : Line
  put (line : Line) (emission : Emission) : Line
  finish (line : Line) : Text
  written (line : Line) : Text
  needsComma (line : Line) : Bool
  label (severity : Severity) : Text
  shown (value : Emitted) : Text

structure Console.Lawful (C : Console) : Prop where
  written_start : ∀ timestamp severity message, C.written (C.start timestamp severity message) =
    timestamp ++ " ".toList ++ C.label severity ++ " ".toList ++ message.toList
  /-- An empty message says nothing. -/
  needsComma_start : ∀ timestamp severity message,
    C.needsComma (C.start timestamp severity message) = decide (message ≠ "")
  written_put : ∀ line emission, C.written (C.put line emission) =
    C.written line ++ (if C.needsComma line then ", ".toList else []) ++
      emission.key.toList ++ ": ".toList ++ C.shown emission.value
  needsComma_put : ∀ line emission, C.needsComma (C.put line emission) = true
  finish_eq : ∀ line, C.finish line = C.written line ++ "\n".toList
  label_critical : C.label .critical = "CRIT".toList
  label_error : C.label .error = "ERRO".toList
  label_warning : C.label .warning = "WARN".toList
  label_info : C.label .info = "INFO".toList
  label_debug : C.label .debug = "DEBG".toList
  label_trace : C.label .trace = "TRCE".toList
  shown_text : ∀ s, C.shown (.text s) = s.toList
  shown_int32 : ∀ n, C.shown (.int32 n) = Numeral.decimal n.toInt
  shown_int64 : ∀ n, C.shown (.int64 n) = Numeral.decimal n.toInt
  shown_truth : ∀ b, C.shown (.truth b) =
    if b then "true".toList else "false".toList
  shown_character : ∀ c, C.shown (.character c) = [c]
  shown_unit : C.shown .unit = "()".toList
  shown_absent : C.shown .absent = "None".toList
  shown_rendered : ∀ s, C.shown (.rendered s) = s.toList

/-- What a courier can do.  It accepts records, delivers one when it is asked to, and
delivers those that are left when there is nobody any more who could log one. -/
structure Courier where
  State : Type → Type
  start {ρ : Type} : State ρ
  accept {ρ : Type} (state : State ρ) (r : ρ) : State ρ
  deliver {ρ : Type} (state : State ρ) : Option (ρ × State ρ)
  finish {ρ : Type} (state : State ρ) : List ρ
  /-- The records that are on their way, the one that was accepted first in front. -/
  waiting {ρ : Type} (state : State ρ) : List ρ
  /-- What is left to be read when a record cannot be written. -/
  notice : Text

structure Courier.Lawful (C : Courier) : Prop where
  waiting_start : ∀ {ρ : Type}, C.waiting (C.start : C.State ρ) = []
  /-- What becomes of a record for which there is no room is left open. -/
  waiting_accept : ∀ {ρ : Type} (state : C.State ρ) r, (C.waiting state).length < 128 →
    C.waiting (C.accept state r) = C.waiting state ++ [r]
  deliver_nil : ∀ {ρ : Type} (state : C.State ρ), C.waiting state = [] → C.deliver state = none
  deliver_cons : ∀ {ρ : Type} (state : C.State ρ) r rest, C.waiting state = r :: rest →
    ∃ state', C.deliver state = some (r, state') ∧ C.waiting state' = rest
  finish_eq : ∀ {ρ : Type} (state : C.State ρ), C.finish state = C.waiting state

structure TerminalConfig where
  timestampFormat : String
  deriving DecidableEq, Repr

/-- The configuration of a terminal when none is given. -/
def TerminalConfig.standard : TerminalConfig :=
  ⟨"%Y-%m-%d %H:%M:%S.%3f"⟩

/-- What a calendar can do: it knows a time when it is one, and how to write times by a
pattern that is valid. -/
structure Calendar where
  Time : Type
  stamp? (pattern : Text) : Option (Time → Text)

structure Calendar.Lawful (C : Calendar) : Prop where
  accepts_standard : ∃ stamp, C.stamp? "%Y-%m-%d %H:%M:%S.%3f".toList = some stamp

structure TerminalKit where
  log : LogLibrary
  console : Console
  courier : Courier
  calendar : Calendar

structure TerminalKit.Lawful (K : TerminalKit) : Prop where
  log : K.log.Lawful
  console : K.console.Lawful
  courier : K.courier.Lawful
  calendar : K.calendar.Lawful

end Faults
