import Faults.Log.Terminal
import Faults.Proofs.LoggerTrees
import Faults.Proofs.StructuredLayouts

/-!
# A terminal prints what a drain observes

Two sinks are given the same history.  One keeps emissions in a list; the other
puts them on the line of a console while they pass, and all that the console remembers
is whether the next one needs a comma.  This file shows that nothing is lost on the
second way: the text of a terminal is one printed line (`Captured.printed`) for each
record that a capturing drain keeps, in the order of the steps.  What a printed line
looks like is said here once more, without any console; the laws of a console speak of
one emission at a time.

* `Console.Lawful.written_foldl` — the comma machine, run over any number of emissions;
* `TerminalKit.Lawful.line_eq_printed` — one record, seen by both sinks;
* `Captured.printed_of_ne_empty` — where there is a message, every emission has its comma;
* `TerminalKit.Delivers` — the invariant of a terminal at work: what was logged is
  what was written followed by what waits, as long as there is room;
* `TerminalKit.Lawful.output_eq_lines` — so the turns of the writer leave no trace;
* `terminal_prints_what_is_captured` — all of it for every history.
-/

namespace Faults

/-! ## Printed lines -/

def Severity.printed : Severity → Text
  | critical => "CRIT".toList
  | error => "ERRO".toList
  | warning => "WARN".toList
  | info => "INFO".toList
  | debug => "DEBG".toList
  | trace => "TRCE".toList

/-- A value as it is printed: a text as it is, which for a fault is its canonical text, and
a number in decimals. -/
def Emitted.printed : Emitted → Text
  | text s => s.toList
  | int32 n => Numeral.decimal n.toInt
  | int64 n => Numeral.decimal n.toInt
  | truth true => "true".toList
  | truth false => "false".toList
  | character c => [c]
  | unit => "()".toList
  | absent => "None".toList
  | rendered s => s.toList

/-- An emission as it stands on a line. -/
def Emission.printed (emission : Emission) : Text :=
  emission.key.toList ++ ": ".toList ++ emission.value.printed

/-- Emissions in a row, each behind a comma and a space. -/
def printedBehind (emissions : List Emission) : Text :=
  emissions.flatMap fun emission => ", ".toList ++ emission.printed

/-- The line of a captured record: the timestamp, the severity, the message, and
the emissions, each behind a comma and a space, but for the first one where
the message is empty. -/
def Captured.printed (timestamp : Text) (c : Captured) : Text :=
  timestamp ++ " ".toList ++ c.severity.printed ++ " ".toList ++ c.message.toList ++
    (if c.message = "" then
      ", ".toList.intercalate (c.kept.emissions.map Emission.printed)
    else printedBehind c.kept.emissions) ++
    "\n".toList

/-- Where there is a message, every emission has its comma. -/
theorem Captured.printed_of_ne_empty {c : Captured} (hmessage : c.message ≠ "")
    (timestamp : Text) :
    c.printed timestamp =
      timestamp ++ " ".toList ++ c.severity.printed ++ " ".toList ++ c.message.toList ++
        printedBehind c.kept.emissions ++ "\n".toList := by
  rw [Captured.printed, if_neg hmessage]

/-! ## One line -/

namespace Console

variable {C : Console}

theorem Lawful.label_eq (hC : C.Lawful) (severity : Severity) :
    C.label severity = severity.printed := by
  cases severity with
  | critical => exact hC.label_critical
  | error => exact hC.label_error
  | warning => exact hC.label_warning
  | info => exact hC.label_info
  | debug => exact hC.label_debug
  | trace => exact hC.label_trace

theorem Lawful.shown_eq (hC : C.Lawful) (value : Emitted) : C.shown value = value.printed := by
  cases value with
  | text s => exact hC.shown_text s
  | int32 n => exact hC.shown_int32 n
  | int64 n => exact hC.shown_int64 n
  | truth b =>
      rw [hC.shown_truth]
      cases b <;> rfl
  | character c => exact hC.shown_character c
  | unit => exact hC.shown_unit
  | absent => exact hC.shown_absent
  | rendered s => exact hC.shown_rendered s

theorem Lawful.written_put_eq (hC : C.Lawful) (line : C.Line) (emission : Emission) :
    C.written (C.put line emission) =
      C.written line ++ (if C.needsComma line then ", ".toList else []) ++ emission.printed := by
  rw [hC.written_put, hC.shown_eq, Emission.printed]
  simp only [List.append_assoc]

/-- Behind a comma, the comma machine writes each emission with a comma. -/
theorem Lawful.written_foldl_behind (hC : C.Lawful) {line : C.Line}
    (h : C.needsComma line = true) (emissions : List Emission) :
    C.written (emissions.foldl C.put line) = C.written line ++ printedBehind emissions := by
  induction emissions generalizing line with
  | nil =>
      rw [printedBehind, List.flatMap_nil, List.append_nil]
      rfl
  | cons first rest ih =>
      rw [List.foldl_cons, ih (hC.needsComma_put line first), hC.written_put_eq, if_pos h]
      simp [printedBehind]

/-- **The comma machine.**  Run over emissions, it adds them to the line with
commas between, and with one in front if something stands there already. -/
theorem Lawful.written_foldl (hC : C.Lawful) (line : C.Line) (emissions : List Emission) :
    C.written (emissions.foldl C.put line) =
      C.written line ++ (if C.needsComma line then printedBehind emissions else
        ", ".toList.intercalate (emissions.map Emission.printed)) := by
  by_cases h : C.needsComma line = true
  · rw [if_pos h, hC.written_foldl_behind h]
  · rw [if_neg h]
    cases emissions with
    | nil => simp [List.intercalate]
    | cons first rest =>
        -- Once something stands on the line, every emission has its comma.
        rw [List.foldl_cons, hC.written_foldl_behind (hC.needsComma_put line first),
          hC.written_put_eq, if_neg h, List.append_nil, List.map_cons,
          Layout.intercalate_cons_eq_flatMap, List.flatMap_map, List.append_assoc]
        rfl

end Console

namespace LogLibrary

variable {L : LogLibrary}

/-- The records of a history, as a capturing drain keeps them. -/
theorem filterMap_captures (loggers : List L.Logger) (steps : List LogStep) :
    (L.captures .trace none loggers steps).filterMap id =
      (L.records loggers steps).map L.observed := by
  induction steps generalizing loggers with
  | nil => rfl
  | cons step steps ih =>
      rw [captures, records, List.map_append, ← ih]
      cases L.logged? loggers step with
      | none => rfl
      | some r =>
          rw [Option.bind_some, capture?_trace]
          rfl

theorem records_append (loggers : List L.Logger) (before after : List LogStep) :
    L.records loggers (before ++ after) =
      L.records loggers before ++ L.records (L.grown loggers before) after := by
  induction before generalizing loggers with
  | nil => rfl
  | cons step before ih =>
      rw [List.cons_append, records, ih, records, List.append_assoc]
      rfl

theorem records_singleton (loggers : List L.Logger) (step : LogStep) :
    L.records loggers [step] = (L.logged? loggers step).toList := by
  rw [records, records, List.append_nil]

/-- Making a logger logs nothing. -/
theorem logged?_of_made {step : LogStep} (hmade : step.action.made = 1)
    (loggers : List L.Logger) : L.logged? loggers step = none := by
  cases hlogger : loggers[step.logger]? with
  | none => exact L.logged?_of_none hlogger
  | some logger =>
      rw [L.logged?_of_some hlogger]
      cases haction : step.action with
      | child pairs => rfl
      | childOf e => rfl
      | logFault e =>
          rw [haction] at hmade
          exact absurd hmade Nat.zero_ne_one
      | log severity tag message pairs =>
          rw [haction] at hmade
          exact absurd hmade Nat.zero_ne_one

/-- All records of a history offer something definite. -/
theorem Lawful.exists_offers_of_mem (hL : L.Lawful) {loggers : List L.Logger}
    (hmade : L.AllMade loggers) {steps : List LogStep} {r : Record L.Logger}
    (hmem : r ∈ L.records loggers steps) : ∃ offers, L.Offers r offers := by
  induction steps generalizing loggers with
  | nil => exact nomatch hmem
  | cons step steps ih =>
      rw [records] at hmem
      rcases List.mem_append.mp hmem with hfirst | hlater
      · exact hL.exists_offers hmade (Option.mem_toList.mp hfirst)
      · exact ih (hmade.next step) hlater

/-- How many records there are in a history is a matter of the number of loggers. -/
theorem length_records_congr {loggers others : List L.Logger}
    (h : loggers.length = others.length) (steps : List LogStep) :
    (L.records loggers steps).length = (L.records others steps).length := by
  induction steps generalizing loggers others with
  | nil => rfl
  | cons step steps ih =>
      have hstep : (L.logged? loggers step).isSome = (L.logged? others step).isSome ∧
          (L.next loggers step).length = (L.next others step).length := by
        -- Both lists have the logger that the step names, or neither has it.
        by_cases hlt : step.logger < loggers.length
        · have hhere := List.getElem?_eq_getElem hlt
          have hthere := List.getElem?_eq_getElem (h ▸ hlt)
          rw [L.logged?_of_some hhere, L.logged?_of_some hthere, L.next_of_some hhere,
            L.next_of_some hthere, length_loggers_perform, length_loggers_perform]
          refine ⟨?_, congrArg (· + step.action.made) h⟩
          cases step.action <;> rfl
        · have hhere := List.getElem?_eq_none_iff.mpr (Nat.not_lt.mp hlt)
          have hthere := List.getElem?_eq_none_iff.mpr (Nat.not_lt.mp (h ▸ hlt))
          rw [L.logged?_of_none hhere, L.logged?_of_none hthere, L.next_of_none hhere,
            L.next_of_none hthere]
          exact ⟨rfl, h⟩
      rw [records, records, List.length_append, List.length_append, ih hstep.2,
        Option.length_toList, Option.length_toList, hstep.1]

end LogLibrary

namespace TerminalKit

variable {K : TerminalKit}

/-- The line takes everything that it is handed. -/
theorem run_forM_put (line : K.console.Line) (emissions : List Emission) :
    (forM emissions fun emission =>
      (modify fun line => K.console.put line emission : Refusable Empty K.console.Line Unit)).run
        line = .ok () (emissions.foldl K.console.put line) := by
  induction emissions generalizing line with
  | nil => rfl
  | cons first rest ih => exact ih (K.console.put line first)

/-- **One record, two sinks.**  The line of a record is the printed form of what
a capturing drain keeps of it. -/
theorem Lawful.line_eq_printed (hK : K.Lawful) (timestamp : Text) {r : K.Record}
    {offers : List Offer} (h : K.log.Offers r offers) :
    K.line timestamp r = (K.log.observed r).printed timestamp := by
  rw [hK.log.observed_eq h, line, hK.log.serialize_eq_forM _ h, lineSink, hK.log.forM_plainly,
    run_forM_put]
  show K.console.finish _ = _
  rw [hK.console.finish_eq, hK.console.written_foldl, hK.console.written_start,
    hK.console.label_eq, hK.console.needsComma_start, Captured.printed]
  by_cases hmessage : r.message = ""
  · simp [hmessage]
  · simp [hmessage]

/-! ## The lines of a history -/

/-- The printed lines of the records that a capturing drain keeps of a history, the
n-th of them with the timestamp of the time `clock n`. -/
def printedHistory (K : TerminalKit) (stamp : K.calendar.Time → Text)
    (clock : Nat → K.calendar.Time) (pairs : List Pair) (steps : List LogStep) : Text :=
  (((K.log.captures .trace none [K.log.root pairs] steps).filterMap id).mapIdx fun n c =>
    c.printed (stamp (clock n))).flatten

variable {stamp : K.calendar.Time → Text} {clock : Nat → K.calendar.Time}

theorem Lawful.lines_eq_printedHistory (hK : K.Lawful) (pairs : List Pair)
    (steps : List LogStep) :
    K.lines stamp clock (K.log.records [K.log.root pairs] steps) =
      K.printedHistory stamp clock pairs steps := by
  rw [printedHistory, LogLibrary.filterMap_captures, lines]
  congr 1
  apply List.ext_getElem?
  intro n
  simp only [List.getElem?_mapIdx, List.getElem?_map, Option.map_map, Function.comp_def]
  cases hrecord : (K.log.records [K.log.root pairs] steps)[n]? with
  | none => rfl
  | some r =>
      obtain ⟨offers, hoffers⟩ := hK.log.exists_offers_of_mem (K.log.allMade_root pairs)
        (List.mem_of_getElem? hrecord)
      exact congrArg some (hK.line_eq_printed _ hoffers)

theorem lines_append (before after : List K.Record) :
    K.lines stamp clock (before ++ after) =
      K.lines stamp clock before ++
        K.lines stamp (fun n => clock (before.length + n)) after := by
  rw [lines, List.mapIdx_append, List.flatten_append, lines, lines]
  simp only [Nat.add_comm]

/-! ## A terminal at work -/

/-- A terminal that has carried out these steps delivers their records: some have been
written, in order, and the others are on their way, in order. -/
structure Delivers (K : TerminalKit) (stamp : K.calendar.Time → Text)
    (clock : Nat → K.calendar.Time) (pairs : List Pair) (steps : List LogStep)
    (session : K.Session) : Prop where
  loggers : session.loggers = K.log.grown [K.log.root pairs] steps
  records : ∃ done, K.log.records [K.log.root pairs] steps =
      done ++ K.courier.waiting session.carried ∧
    session.count = done.length ∧ session.written = K.lines stamp clock done

variable {pairs : List Pair} {steps : List LogStep} {session : K.Session}

theorem Lawful.delivers_begin (hK : K.Lawful) :
    K.Delivers stamp clock pairs [] (K.begin pairs) where
  loggers := rfl
  records := ⟨[], by rw [begin, hK.courier.waiting_start]; rfl, rfl, rfl⟩

/-- **A step keeps the invariant**, as long as there is room for what it logs. -/
theorem Delivers.step (hK : K.Lawful) (h : K.Delivers stamp clock pairs steps session)
    (step : LogStep)
    (hroom : (K.log.records [K.log.root pairs] (steps ++ [step])).length ≤ 128) :
    K.Delivers stamp clock pairs (steps ++ [step]) (K.turn stamp clock session (.step step)) := by
  obtain ⟨hloggers, done, hrecords, hcount, hwritten⟩ := h
  rw [LogLibrary.records_append, LogLibrary.records_singleton, ← hloggers] at hroom
  refine ⟨?_, done, ?_, hcount, hwritten⟩
  · rw [LogLibrary.grown_append, ← hloggers]
    rfl
  · rw [LogLibrary.records_append, LogLibrary.records_singleton, ← hloggers, hrecords,
      List.append_assoc]
    congr 1
    cases hlogged : K.log.logged? session.loggers step with
    | none =>
        simp only [turn, hlogged]
        exact List.append_nil _
    | some r =>
        rw [hlogged, hrecords, List.length_append, List.length_append] at hroom
        -- What waits was logged before, so there is room for one record more.
        have hfits : (K.courier.waiting session.carried).length < 128 := by
          have hone : (some r).toList.length = 1 := rfl
          omega
        simp only [turn, hlogged]
        exact (hK.courier.waiting_accept session.carried r hfits).symm

/-- **The writer keeps the invariant**: the record that came first is written. -/
theorem Delivers.writing (hK : K.Lawful) (h : K.Delivers stamp clock pairs steps session) :
    K.Delivers stamp clock pairs steps (K.turn stamp clock session .writing) := by
  obtain ⟨hloggers, done, hrecords, hcount, hwritten⟩ := h
  cases hwaiting : K.courier.waiting session.carried with
  | nil =>
      have hturn : K.turn stamp clock session .writing = session := by
        simp only [turn, hK.courier.deliver_nil session.carried hwaiting]
      rw [hturn]
      exact ⟨hloggers, done, hrecords, hcount, hwritten⟩
  | cons r rest =>
      obtain ⟨carried, hdeliver, hrest⟩ :=
        hK.courier.deliver_cons session.carried r rest hwaiting
      have hturn : K.turn stamp clock session .writing =
          { session with
            carried
            written := session.written ++ K.line (stamp (clock session.count)) r
            count := session.count + 1 } := by
        simp only [turn, hdeliver]
      rw [hturn]
      refine ⟨hloggers, done ++ [r], ?_, ?_, ?_⟩
      · rw [hrecords, hwaiting, hrest, List.append_assoc]
        rfl
      · rw [List.length_append, hcount]
        rfl
      · rw [lines_append, hwritten, hcount]
        simp [lines]

/-- Turn after turn, a terminal delivers what is logged. -/
theorem Delivers.turns (hK : K.Lawful) (h : K.Delivers stamp clock pairs steps session)
    (turns : List Terminal.Turn)
    (hroom : (K.log.records [K.log.root pairs] (steps ++ Terminal.steps turns)).length ≤ 128) :
    K.Delivers stamp clock pairs (steps ++ Terminal.steps turns)
      (turns.foldl (K.turn stamp clock) session) := by
  induction turns generalizing steps session with
  | nil =>
      rw [Terminal.steps, List.filterMap_nil, List.append_nil]
      exact h
  | cons t turns ih =>
      cases t with
      | step step =>
          have hsplit : steps ++ Terminal.steps (.step step :: turns) =
              (steps ++ [step]) ++ Terminal.steps turns := by
            rw [Terminal.steps_cons_step, List.append_assoc]
            rfl
          rw [hsplit] at hroom ⊢
          have hnow : (K.log.records [K.log.root pairs] (steps ++ [step])).length ≤ 128 := by
            rw [LogLibrary.records_append, List.length_append] at hroom
            omega
          exact ih (h.step hK step hnow) hroom
      | writing => exact ih (h.writing hK) hroom

/-- **The turns of the writer leave no trace.**  However they fall, the lines are
those of the records in the order in which these were logged, if there are no more
records than the courier has room for. -/
theorem Lawful.output_eq_lines (hK : K.Lawful) {config : TerminalConfig}
    (hpattern : K.calendar.stamp? config.timestampFormat.toList = some stamp)
    {turns : List Terminal.Turn}
    (hroom : (K.log.records [K.log.root pairs] (Terminal.steps turns)).length ≤ 128) :
    K.output config clock pairs turns =
      K.lines stamp clock (K.log.records [K.log.root pairs] (Terminal.steps turns)) := by
  have hbegin : K.Delivers stamp clock pairs [] (K.begin pairs) := hK.delivers_begin
  obtain ⟨-, done, hrecords, hcount, hwritten⟩ := hbegin.turns hK turns hroom
  rw [List.nil_append] at hrecords
  rw [output, hpattern, hrecords, lines_append]
  show K.finish stamp clock (turns.foldl (K.turn stamp clock) (K.begin pairs)) = _
  rw [finish, hwritten, hK.courier.finish_eq, hcount]

/-- So all that is written is what a capturing drain keeps, line by line. -/
theorem Lawful.output_eq_printedHistory (hK : K.Lawful) {config : TerminalConfig}
    (hpattern : K.calendar.stamp? config.timestampFormat.toList = some stamp)
    {turns : List Terminal.Turn}
    (hroom : (K.log.records [K.log.root pairs] (Terminal.steps turns)).length ≤ 128) :
    K.output config clock pairs turns =
      K.printedHistory stamp clock pairs (Terminal.steps turns) := by
  rw [hK.output_eq_lines hpattern hroom, hK.lines_eq_printedHistory]

/-- A logger that is made in the end changes nothing about what is written. -/
theorem output_concat_of_made {step : LogStep} (hmade : step.action.made = 1)
    (config : TerminalConfig) (turns : List Terminal.Turn) :
    K.output config clock pairs (turns ++ [.step step]) = K.output config clock pairs turns := by
  have hsteps : Terminal.steps (turns ++ [.step step]) = Terminal.steps turns ++ [step] :=
    Terminal.steps_append turns [.step step]
  rw [output, output]
  cases K.calendar.stamp? config.timestampFormat.toList with
  | none =>
      simp only [hsteps, LogLibrary.records_append, LogLibrary.records_singleton,
        LogLibrary.logged?_of_made hmade, Option.toList_none, List.append_nil]
  | some stamp =>
      -- The loggers are all that changes, and in the end nobody asks for them.
      simp only [List.foldl_append, List.foldl_cons, List.foldl_nil, finish, turn,
        LogLibrary.logged?_of_made hmade]

end TerminalKit

/-- A canonical text is never empty. -/
theorem Fault.canonical_ne_empty (e : Fault) : e.canonical ≠ "" := by
  intro hempty
  have htext : e.canonicalText = [] := by
    simpa [Fault.canonical] using hempty
  have hlabel : e.canonicalText.head? = some 'e' := rfl
  rw [htext] at hlabel
  exact nomatch hlabel

/-- A captured record that logs a fault says its canonical text. -/
theorem LogLibrary.Lawful.message_of_captured_logFault {L : LogLibrary} (hL : L.Lawful)
    {loggers : List L.Logger} {i : Nat} {e : Fault} {c : Captured}
    (h : L.captured loggers ⟨i, .logFault e⟩ = some c) : c.message = e.canonical := by
  rw [captured] at h
  cases hlogger : loggers[i]? with
  | none =>
      rw [L.logged?_of_none hlogger] at h
      cases h
  | some logger =>
      rw [L.logged?_of_some hlogger] at h
      have hcapture : L.capture? .trace none (L.logFault logger e) = some c := h
      rw [capture?_trace] at hcapture
      obtain rfl := Option.some.inj hcapture
      rw [observed, logFault, hL.errorRecord_eq]

/-- **A terminal prints what a drain observes.**  For every lawful kit, every pattern
that its calendar accepts and every history with no more records than the courier is sure
to have room for, all that is written is one printed line for each record that a
capturing drain keeps of the same steps, in their order, and it does not depend on the
turns of the writer.  Making a logger writes nothing.  The line of a fault says its
canonical text, so each emission behind it has its comma.  A terminal without a
configuration of its own does the same by the standard pattern. -/
theorem terminal_prints_what_is_captured {K : TerminalKit} (hK : K.Lawful)
    {config : TerminalConfig} {stamp : K.calendar.Time → Text} {pairs : List Pair}
    {turns : List Terminal.Turn}
    (hpattern : K.calendar.stamp? config.timestampFormat.toList = some stamp)
    (hroom : (K.log.records [K.log.root pairs] (Terminal.steps turns)).length ≤ 128)
    (clock : Nat → K.calendar.Time) :
    K.output config clock pairs turns =
      K.printedHistory stamp clock pairs (Terminal.steps turns) ∧
    (∀ step : LogStep, step.action.made = 1 →
      K.output config clock pairs (turns ++ [.step step]) = K.output config clock pairs turns) ∧
    (∀ (n i : Nat) (e : Fault) (c : Captured),
      (Terminal.steps turns)[n]? = some ⟨i, .logFault e⟩ →
      (K.log.captures .trace none [K.log.root pairs] (Terminal.steps turns))[n]? =
        some (some c) →
      c.message = e.canonical ∧ c.message ≠ "" ∧ ∀ timestamp, c.printed timestamp =
        timestamp ++ " ".toList ++ c.severity.printed ++ " ".toList ++
          e.canonical.toList ++ printedBehind c.kept.emissions ++ "\n".toList) ∧
    ∃ standard, K.calendar.stamp? "%Y-%m-%d %H:%M:%S.%3f".toList = some standard ∧
      (TerminalLogger.ofPairs pairs).output K clock turns =
        K.printedHistory standard clock pairs (Terminal.steps turns) ∧
      TerminalLogger.plain.output K clock turns =
        K.printedHistory standard clock [] (Terminal.steps turns) := by
  refine ⟨hK.output_eq_printedHistory hpattern hroom,
    fun step hmade => TerminalKit.output_concat_of_made hmade config turns, ?_, ?_⟩
  · intro n i e c hstep hcaptured
    rw [LogLibrary.getElem?_captures, hstep, Option.map_some] at hcaptured
    have hmessage := hK.log.message_of_captured_logFault (Option.some.inj hcaptured)
    have hne : c.message ≠ "" := hmessage ▸ e.canonical_ne_empty
    refine ⟨hmessage, hne, fun timestamp => ?_⟩
    rw [Captured.printed_of_ne_empty hne, hmessage]
  · obtain ⟨standard, hstandard⟩ := hK.calendar.accepts_standard
    have hplain : (K.log.records [K.log.root []] (Terminal.steps turns)).length ≤ 128 := by
      have hsame : [K.log.root []].length = [K.log.root pairs].length := rfl
      rw [LogLibrary.length_records_congr hsame]
      exact hroom
    exact ⟨standard, hstandard, hK.output_eq_printedHistory hstandard hroom,
      hK.output_eq_printedHistory hstandard hplain⟩

/-- Below a logger that carries a fault and one that has a pair of every kind, a record
without a message begins with that logger's text; then a fault is logged there.  The
writer has its turns where it likes, and the clock is an hour ahead. -/
theorem terminal_prints_fault_below_fault :
    let turns : List Terminal.Turn :=
      [.step ⟨0, .childOf ⟨7, "down"⟩⟩, .writing,
        .step ⟨1, .child [.keyed "text" (.text "a, b"), .keyed "n" (.int64 (-8)),
          .keyed "c" (.character '%'), .keyed "u" .unit, .keyed "none" (.optional none),
          .keyed "some" (.optional (some 3)), .keyed "cause" (.fault ⟨5, "late"⟩),
          .keyed "source" (.failure ⟨-6, ""⟩), .spread ⟨4, "x"⟩]⟩,
        .step ⟨2, .log .info "" "" []⟩, .step ⟨2, .logFault ⟨-1, "a, b"⟩⟩, .writing]
    let pairs : List Pair := [.keyed "app" (.truth true)]
    let clock : Nat → LocalTime := fun n => ⟨⟨2026, 11, 19, 23, 17, n, 0⟩, 3600⟩
    let shared : Text := "text: a, b, n: -8, c: %, u: (), none: None, some: 3, ".toList ++
      "cause: errCode: 5, errMsg: late, source: errCode: -6, errMsg: , ".toList ++
      "err_code: 4, err_msg: x, err_code: 7, err_msg: down, app: true\n".toList
    (∃ stamp, TerminalKit.standard.calendar.stamp? "%S%z".toList = some stamp) ∧
      (LogLibrary.linked.records [.root pairs] (Terminal.steps turns)).length ≤ 128 ∧
      TerminalKit.standard.output ⟨"%S%z"⟩ clock pairs turns =
        "00+0100 INFO ".toList ++ shared ++
          "01+0100 ERRO errCode: -1, errMsg: a, b, err_msg: a, b, err_code: -1, ".toList ++
          shared := by
  intro turns pairs clock shared
  let config : TerminalConfig := ⟨"%S%z"⟩
  have hpattern : TerminalKit.standard.calendar.stamp? config.timestampFormat.toList =
      some (Timestamp.text [.number .second .zeros, .offset (.minutes false)]) :=
    Calendar.gregorian_stamp? (by decide)
  have hroom : (LogLibrary.linked.records [.root pairs] (Terminal.steps turns)).length ≤ 128 := by
    decide
  refine ⟨⟨_, hpattern⟩, hroom, ?_⟩
  rw [(terminal_prints_what_is_captured TerminalKit.standard_lawful hpattern hroom clock).1]
  decide +kernel

end Faults
