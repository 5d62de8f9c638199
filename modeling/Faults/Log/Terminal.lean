import Faults.Log.Linked
import Faults.Log.Terminal.Run
import Faults.Log.Timestamp

/-!
# The terminal

The terminal that is used: loggers are linked to their parents, the console holds the
characters of a line, the courier is a queue of at most 128 records that turns away
those for which there is no room, and the calendar is the one of timestamps.  All of
this is lawful (`TerminalKit.standard_lawful`).
-/

namespace Faults

/-- The four letters that stand for a severity. -/
def Severity.label : Severity → String
  | critical => "CRIT"
  | error => "ERRO"
  | warning => "WARN"
  | info => "INFO"
  | debug => "DEBG"
  | trace => "TRCE"

/-- A value as it is shown.  Nothing is escaped. -/
def Emitted.shown : Emitted → Text
  | text s => s.toList
  | int32 n => Numeral.decimal n.toInt
  | int64 n => Numeral.decimal n.toInt
  | truth b => if b then "true".toList else "false".toList
  | character c => [c]
  | unit => "()".toList
  | absent => "None".toList
  | rendered s => s.toList

/-- A line that is being written. -/
structure PlainLine where
  text : Text
  /-- Whether a comma must precede the next emission. -/
  needsComma : Bool

def Console.plain : Console where
  Line := PlainLine
  start timestamp severity message :=
    { text := timestamp ++ ' ' :: severity.label.toList ++ ' ' :: message.toList
      needsComma := message ≠ "" }
  put line emission :=
    { text := line.text ++ (if line.needsComma then [',', ' '] else []) ++
        emission.key.toList ++ ':' :: ' ' :: emission.value.shown
      needsComma := true }
  finish line := line.text ++ ['\n']
  written := PlainLine.text
  needsComma := PlainLine.needsComma
  label severity := severity.label.toList
  shown := Emitted.shown

theorem Console.plain_lawful : Console.plain.Lawful where
  written_start _ _ _ := by simp [Console.plain]
  needsComma_start _ _ _ := rfl
  written_put line emission := by
    show line.text ++ _ ++ _ ++ ([':', ' '] ++ _) = _
    rw [← List.append_assoc]
    rfl
  needsComma_put _ _ := rfl
  finish_eq _ := rfl
  label_critical := rfl
  label_error := rfl
  label_warning := rfl
  label_info := rfl
  label_debug := rfl
  label_trace := rfl
  shown_text _ := rfl
  shown_int32 _ := rfl
  shown_int64 _ := rfl
  shown_truth _ := rfl
  shown_character _ := rfl
  shown_unit := rfl
  shown_absent := rfl
  shown_rendered _ := rfl

/-- A queue with room for 128 records. -/
def Courier.queue : Courier where
  State := List
  start := []
  accept waiting r := if waiting.length < 128 then waiting ++ [r] else waiting
  deliver
    | [] => none
    | r :: rest => some (r, rest)
  finish waiting := waiting
  waiting waiting := waiting
  notice := "slog-async failed with panic: Any \x7b .. \x7d\n".toList

theorem Courier.queue_lawful : Courier.queue.Lawful where
  waiting_start := rfl
  waiting_accept _ _ hroom := if_pos hroom
  deliver_nil _ h := by
    cases h
    rfl
  deliver_cons _ r rest h := by
    cases h
    exact ⟨rest, rfl, rfl⟩
  finish_eq _ := rfl

/-- The calendar of timestamps. -/
def Calendar.gregorian : Calendar where
  Time := LocalTime
  stamp? pattern := (Timestamp.fields? pattern).map Timestamp.text

theorem Calendar.gregorian_stamp? {pattern : Text} {fields : List TimeField}
    (h : Timestamp.fields? pattern = some fields) :
    Calendar.gregorian.stamp? pattern = some (Timestamp.text fields) :=
  congrArg (Option.map Timestamp.text) h

theorem Calendar.gregorian_lawful : Calendar.gregorian.Lawful where
  accepts_standard := by
    have hfields : (Timestamp.fields? "%Y-%m-%d %H:%M:%S.%3f".toList).isSome := by decide
    obtain ⟨fields, h⟩ := Option.isSome_iff_exists.mp hfields
    exact ⟨Timestamp.text fields, Calendar.gregorian_stamp? h⟩

namespace TerminalKit

def standard : TerminalKit where
  log := .linked
  console := .plain
  courier := .queue
  calendar := .gregorian

theorem standard_lawful : standard.Lawful where
  log := LogLibrary.linked_lawful
  console := Console.plain_lawful
  courier := Courier.queue_lawful
  calendar := Calendar.gregorian_lawful

end TerminalKit

/-- All that is written for a history of steps when the writer has its turn after each of
them. -/
def TerminalLogger.transcript (root : TerminalLogger) (clock : Nat → LocalTime)
    (steps : List LogStep) : Text :=
  root.output .standard clock (steps.flatMap fun step => [.step step, .writing])

end Faults
