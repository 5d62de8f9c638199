import Faults.Proofs.CanonicalText
import Faults.Proofs.TerminalLines

/-!
# A line identifies the fault that it logs

The line of a logged fault says its canonical text, then its message once more,
then its status, and then all that the loggers add.  Nothing of this is
escaped: the message may hold the labels that stand around it, newlines, or a
whole line of another record.  So there is no separator to look for.  What
pins the message down is that it stands there **twice**: once the heading of the
canonical text has told the status, two lines of the same length have messages
of the same length (`eq_of_twice`), and then the messages are the same.

The message stands in front of the status because a statement has the pairs that it lists
in the reverse order.  That and the form of a line are laws of the kit; the
argument is about every kit that has them.

* `TerminalKit.Lawful.line_logFault` — the line of a logged fault, part by part;
* `TerminalKit.Lawful.line_logFault_injective` — below one logger and at one time, no two
  faults have the same line;
* `terminal_line_identifies_fault` — the same for the lines of a history in which one fault
  is logged, and for the whole text of a terminal.
-/

namespace Faults

/-- A text that stands twice, with the same text between and the same text behind,
is determined by the whole.  The length of the whole tells its length. -/
theorem eq_of_twice {γ : Type} {between behind xs ys : List γ}
    (heq : xs ++ (between ++ (xs ++ behind)) = ys ++ (between ++ (ys ++ behind))) : xs = ys := by
  have hlength : xs.length = ys.length := by
    have hwhole := congrArg List.length heq
    simp only [List.length_append] at hwhole
    omega
  exact (List.append_inj heq hlength).1

/-! ## Histories in which a fault is logged -/

namespace LogLibrary

variable {L : LogLibrary} {loggers : List L.Logger} {before : List LogStep} {i : Nat}
  {logger : L.Logger}

/-- A fault that is logged in the midst of a history leaves the loggers alone, and
adds one record. -/
theorem records_logFault (hlogger : (L.grown loggers before)[i]? = some logger) (e : Fault)
    (after : List LogStep) :
    L.records loggers (before ++ ⟨i, .logFault e⟩ :: after) =
      L.records loggers before ++
        L.logFault logger e :: L.records (L.grown loggers before) after := by
  rw [records_append, records, L.next_of_some hlogger, L.logged?_of_some hlogger]
  rfl

end LogLibrary

namespace TerminalKit

variable {K : TerminalKit}

/-! ## One line -/

/-- The line of a logged fault: the canonical text, the message, the status, and
what the logger and those above it add. -/
theorem Lawful.line_logFault (hK : K.Lawful) (timestamp : Text) {logger : K.log.Logger}
    {above : List Pair} (hmade : K.log.MadeOf logger above) (e : Fault) :
    K.line timestamp (K.log.logFault logger e) =
      timestamp ++ " ERRO ".toList ++ e.canonicalText ++
        ", err_msg: ".toList ++ e.message.toList ++
        ", err_code: ".toList ++ Numeral.decimal e.status.toInt ++
        printedBehind (above.flatMap Pair.emissions) ++ "\n".toList := by
  have hrecord : K.log.logFault logger e =
      { severity := .error, tag := "", message := e.canonical
        pairs := [.keyed "err_msg" (.text e.message), .keyed "err_code" (.int32 e.status)]
        logger } := hK.log.errorRecord_eq _ _ _
  have hoffers : K.log.Offers (K.log.logFault logger e)
      (.value ⟨"err_msg", .text e.message⟩ :: .value ⟨"err_code", .int32 e.status⟩ ::
        above.flatMap Pair.offers) := by
    rw [hrecord]
    exact ⟨above, hmade, rfl⟩
  have hprinted (rest : List Emission) :
      printedBehind (⟨"err_msg", .text e.message⟩ :: ⟨"err_code", .int32 e.status⟩ :: rest) =
        ", err_msg: ".toList ++ e.message.toList ++
          ", err_code: ".toList ++ Numeral.decimal e.status.toInt ++ printedBehind rest := by
    have hbeforeMessage :
        ", err_msg: ".toList = ", ".toList ++ "err_msg".toList ++ ": ".toList := by decide
    have hbeforeStatus :
        ", err_code: ".toList = ", ".toList ++ "err_code".toList ++ ": ".toList := by decide
    have htext : (Emitted.text e.message).printed = e.message.toList := rfl
    have hnumber : (Emitted.int32 e.status).printed = Numeral.decimal e.status.toInt := rfl
    rw [hbeforeMessage, hbeforeStatus]
    simp only [printedBehind, Emission.printed, htext, hnumber, List.flatMap_cons,
      List.append_assoc]
  rw [hK.line_eq_printed timestamp hoffers, hK.log.observed_eq hoffers, hrecord,
    Captured.printed_of_ne_empty e.canonical_ne_empty]
  have hlabel : " ERRO ".toList = " ".toList ++ Severity.error.printed ++ " ".toList := by decide
  simp only [List.map_cons, Offer.emission, Pair.map_offers, hprinted, hlabel, Fault.canonical,
    String.toList_ofList, List.append_assoc]

/-- **A line identifies the fault that it logs**, below any logger and whatever
the timestamp. -/
theorem Lawful.line_logFault_injective (hK : K.Lawful) (timestamp : Text)
    {logger : K.log.Logger} {above : List Pair} (hmade : K.log.MadeOf logger above) :
    Function.Injective fun e : Fault => K.line timestamp (K.log.logFault logger e) := by
  intro e f heq
  simp only [hK.line_logFault timestamp hmade, Fault.canonicalText_eq, List.append_assoc,
    List.append_cancel_left_eq] at heq
  -- The heading ends in front of the message, so the status is known first.
  obtain ⟨hstatus, hrest⟩ := Fault.selfDelimiting_heading _ _ _ _ heq
  rw [hstatus] at hrest
  have hmessage : e.message.toList = f.message.toList := eq_of_twice hrest
  exact Fault.parts_injective (Prod.ext hstatus (String.toList_injective hmessage))

/-! ## Many lines -/

variable {stamp : K.calendar.Time → Text} {clock : Nat → K.calendar.Time}

/-- The lines around a record do not depend on it. -/
theorem lines_around (before after : List K.Record) (r : K.Record) :
    K.lines stamp clock (before ++ r :: after) =
      K.lines stamp clock before ++ K.line (stamp (clock before.length)) r ++
        K.lines stamp (fun n => clock (before.length + 1 + n)) after := by
  have hsplit : before ++ r :: after = (before ++ [r]) ++ after := by simp
  have hone : K.lines stamp (fun n => clock (before.length + n)) [r] =
      K.line (stamp (clock before.length)) r := by
    simp [lines]
  rw [hsplit, lines_append, lines_append, hone, List.length_append, List.length_singleton]

/-- The lines of a history identify a fault that is logged in it. -/
theorem Lawful.lines_logFault_injective (hK : K.Lawful) {pairs : List Pair}
    {before : List LogStep} {i : Nat}
    (hi : i < (K.log.grown [K.log.root pairs] before).length) (after : List LogStep) :
    Function.Injective fun e : Fault =>
      K.lines stamp clock
        (K.log.records [K.log.root pairs] (before ++ ⟨i, .logFault e⟩ :: after)) := by
  intro e f heq
  have hall : K.log.AllMade (K.log.grown [K.log.root pairs] before) :=
    (K.log.allMade_root pairs).grown before
  obtain ⟨above, hmade⟩ := hall _ (List.getElem_mem hi)
  simp only [LogLibrary.records_logFault (List.getElem?_eq_getElem hi), lines_around] at heq
  have hline := List.append_cancel_left (List.append_cancel_right heq)
  exact hK.line_logFault_injective _ hmade hline

/-- All that is written identifies a fault that is logged, if there is room for all
records. -/
theorem Lawful.output_logFault_injective (hK : K.Lawful) {config : TerminalConfig}
    (hpattern : K.calendar.stamp? config.timestampFormat.toList = some stamp)
    {pairs : List Pair} {before after : List Terminal.Turn} {i : Nat}
    (hi : i < (K.log.grown [K.log.root pairs] (Terminal.steps before)).length)
    (hroom : (K.log.records [K.log.root pairs] (Terminal.steps before)).length +
      (K.log.records (K.log.grown [K.log.root pairs] (Terminal.steps before))
        (Terminal.steps after)).length < 128) :
    Function.Injective fun e : Fault =>
      K.output config clock pairs (before ++ .step ⟨i, .logFault e⟩ :: after) := by
  have hsteps (e : Fault) : Terminal.steps (before ++ .step ⟨i, .logFault e⟩ :: after) =
      Terminal.steps before ++ ⟨i, .logFault e⟩ :: Terminal.steps after := by
    rw [Terminal.steps_append, Terminal.steps_cons_step]
  have hfits (e : Fault) : (K.log.records [K.log.root pairs]
      (Terminal.steps (before ++ .step ⟨i, .logFault e⟩ :: after))).length ≤ 128 := by
    rw [hsteps, LogLibrary.records_logFault (List.getElem?_eq_getElem hi), List.length_append,
      List.length_cons]
    omega
  intro e f heq
  simp only [hK.output_eq_lines hpattern (hfits _), hsteps] at heq
  exact hK.lines_logFault_injective hi (Terminal.steps after) heq

end TerminalKit

/-- **What a terminal prints identifies the fault that was logged**, although nothing
in it is escaped, and whichever lawful kit prints it.  Below one logger, with whatever
pairs it and those above it have, and with one timestamp, no two faults have the same
line.  In a history in which a fault is logged by a logger that exists, no other fault
in its place leaves the same lines, whatever is logged before and after.  Nor does it
leave the same text on the terminal, wherever the writer has its turns, as long as there
is room for all records. -/
theorem terminal_line_identifies_fault {K : TerminalKit} (hK : K.Lawful) :
    (∀ (timestamp : Text) (logger : K.log.Logger) (above : List Pair),
      K.log.MadeOf logger above →
      Function.Injective fun e : Fault => K.line timestamp (K.log.logFault logger e)) ∧
    (∀ (stamp : K.calendar.Time → Text) (clock : Nat → K.calendar.Time) (pairs : List Pair)
      (before after : List LogStep) (i : Nat),
      i < (K.log.grown [K.log.root pairs] before).length →
      Function.Injective fun e : Fault =>
        K.lines stamp clock
          (K.log.records [K.log.root pairs] (before ++ ⟨i, .logFault e⟩ :: after))) ∧
    (∀ (config : TerminalConfig) (stamp : K.calendar.Time → Text)
      (clock : Nat → K.calendar.Time) (pairs : List Pair) (before after : List Terminal.Turn)
      (i : Nat),
      K.calendar.stamp? config.timestampFormat.toList = some stamp →
      i < (K.log.grown [K.log.root pairs] (Terminal.steps before)).length →
      (K.log.records [K.log.root pairs] (Terminal.steps before)).length +
        (K.log.records (K.log.grown [K.log.root pairs] (Terminal.steps before))
          (Terminal.steps after)).length < 128 →
      Function.Injective fun e : Fault =>
        K.output config clock pairs (before ++ .step ⟨i, .logFault e⟩ :: after)) := by
  refine ⟨?_, ?_, ?_⟩
  · intro timestamp logger above hmade
    exact hK.line_logFault_injective timestamp hmade
  · intro stamp clock pairs before after i hi
    exact hK.lines_logFault_injective hi after
  · intro config stamp clock pairs before after i hpattern hi hroom
    exact hK.output_logFault_injective hpattern hi hroom

/-- A message that goes on with the line of another fault, below a logger that is made on
the way, is not taken for the message in front: not on its line, nor among the lines,
nor on the terminal. -/
theorem forged_line_identifies_fault :
    let K : TerminalKit := .standard
    let clock : Nat → LocalTime := fun n => ⟨⟨2026, 11, 19, 23, 17, n, 0⟩, 3600⟩
    let forged : Fault := ⟨1, "a, err_msg: a, err_code: 1\n00 ERRO errCode: 1, errMsg: a"⟩
    let plain : Fault := ⟨1, "a"⟩
    let logger : LinkedLogger := .child [.spread ⟨7, "down"⟩] (.root [])
    let records (e : Fault) : List K.Record := K.log.records [.root []]
      [⟨0, .childOf ⟨7, "down"⟩⟩, ⟨1, .logFault e⟩, ⟨0, .log .info "up" "" []⟩]
    let output (e : Fault) : Text := K.output ⟨"%S"⟩ clock []
      [.step ⟨0, .childOf ⟨7, "down"⟩⟩, .step ⟨1, .logFault e⟩, .writing,
        .step ⟨0, .log .info "up" "" []⟩]
    (K.line [] (K.log.logFault logger forged) ≠ K.line [] (K.log.logFault logger plain)) ∧
      (K.lines (Timestamp.text []) clock (records forged) ≠
        K.lines (Timestamp.text []) clock (records plain)) ∧
      output forged ≠ output plain := by
  intro K clock forged plain logger records output
  have hne : forged ≠ plain := by decide
  obtain ⟨hline, hlines, houtput⟩ :=
    terminal_line_identifies_fault TerminalKit.standard_lawful
  have hmade : LogLibrary.linked.MadeOf logger [.spread ⟨7, "down"⟩] :=
    .child [.spread ⟨7, "down"⟩] (.root [])
  let config : TerminalConfig := ⟨"%S"⟩
  have hpattern : K.calendar.stamp? config.timestampFormat.toList =
      some (Timestamp.text [.number .second .zeros]) := Calendar.gregorian_stamp? (by decide)
  refine ⟨fun heq => hne (hline _ _ _ hmade heq), fun heq => hne ?_, fun heq => hne ?_⟩
  · exact hlines _ _ [] [⟨0, .childOf ⟨7, "down"⟩⟩] [⟨0, .log .info "up" "" []⟩] 1 (by decide)
      heq
  · exact houtput config _ clock [] [.step ⟨0, .childOf ⟨7, "down"⟩⟩]
      [.writing, .step ⟨0, .log .info "up" "" []⟩] 1 hpattern (by decide) (by decide) heq

/-- The loggers must be the same: what one of them adds can make up for a message
that imitates a line. -/
example :
    TerminalKit.standard.line [] (LogLibrary.linked.logFault
      (.root [.keyed "err_msg" (.text ", err_msg: , err_code: 0"), .keyed "err_code" (.int32 0)])
      ⟨0, ""⟩) =
    TerminalKit.standard.line [] (LogLibrary.linked.logFault (.root [])
      ⟨0, ", err_msg: , err_code: 0"⟩) := by
  decide

end Faults
