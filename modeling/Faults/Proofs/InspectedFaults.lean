import Faults.Proofs.CanonicalText
import Faults.Proofs.QuotedText
import Faults.Proofs.SinglePlaceholder
import Faults.Proofs.StructuredLayouts

/-!
# Inspected faults cannot be confused

Inspecting shows a fault with both of its fields, alone, as a value that may be
absent, or in a list, on one line or on many.  The status is a numeral that
ends at a comma, and the message is quoted.  So nothing in a message can forge
the end of a fault or the beginning of another, whichever characters are
spelled by number, and the text of a fault is self-delimiting
(`Fault.selfDelimiting_inspected`).  Structured layouts keep this.

In the expanded layout the text is indented wherever a line begins.  Quoted
text stays on one line, so no message is touched, however deep the fault stands
(`Fault.entry_expandedLines`).

* `inspectedFaults_unambiguous` — equal texts come from equal values, no text of
  a fault is a proper beginning of another, and what the texts look like.
-/

namespace Faults

/-- An integer under a specification that asks for no sign and no width is its
canonical numeral. -/
theorem Format.Integer.decimal_alternate (expanded : Bool) (n : Int) :
    decimal { alternate := expanded } n = Numeral.decimal n := by
  have hpad : ∀ sign digits : Text, Spec.numeric { alternate := expanded } sign digits =
      sign ++ digits := by
    intro sign digits
    simp [Spec.numeric, Spec.pad]
  by_cases hneg : n < 0
  · rw [decimal, hpad, Numeral.decimal, if_pos hneg, decide_eq_true hneg]
    rfl
  · rw [decimal, hpad, Numeral.decimal, if_neg hneg, decide_eq_false hneg]
    rfl

namespace Fault

variable (hidden : Char → Bool)

/-- The inspecting text of a fault without any padding, in either layout. -/
def inspected (expanded : Bool) (e : Fault) : Text :=
  e.inspect hidden { alternate := expanded } none

/-- A fault on four lines, all of them behind the same margin. -/
def expandedLines (margin : Text) (e : Fault) : Text :=
  margin ++ "Error \x7b\n".toList ++
  margin ++ "    status: ".toList ++ Numeral.decimal e.status.toInt ++ ",\n".toList ++
  margin ++ "    message: ".toList ++ Quoted.text hidden e.message.toList ++ ",\n".toList ++
  margin ++ "\x7d".toList

theorem render_status (expanded : Bool) (e : Fault) :
    Format.Integer.render { alternate := expanded } (.inspect none) .status e.status.toInt =
      Numeral.decimal e.status.toInt :=
  Format.Integer.decimal_alternate expanded _

/-- A fault on one line, under any specification that does not ask for more. -/
theorem inspect_compact {spec : Spec} (hspec : spec.alternate = false)
    (hex : Option LetterCase) (e : Fault) :
    e.inspect hidden spec hex =
      "Error \x7b status: ".toList ++
        Format.Integer.render spec (.inspect hex) .status e.status.toInt ++
        ", message: ".toList ++ Quoted.text hidden e.message.toList ++ " \x7d".toList := by
  rw [inspect, hspec]
  simp [Layout.record, Layout.field, List.intercalate]

/-- A fault on many lines, under any specification that asks for them and writes the status
on one. -/
theorem inspect_expanded {spec : Spec} (hspec : spec.alternate = true)
    (hex : Option LetterCase) (e : Fault)
    (hline : '\n' ∉ Format.Integer.render spec (.inspect hex) .status e.status.toInt) :
    e.inspect hidden spec hex =
      "Error \x7b\n    status: ".toList ++
        Format.Integer.render spec (.inspect hex) .status e.status.toInt ++
        ",\n    message: ".toList ++ Quoted.text hidden e.message.toList ++
        ",\n\x7d".toList := by
  have hstatus : '\n' ∉ Layout.field "status"
      (Format.Integer.render spec (.inspect hex) .status e.status.toInt) := by
    simp [Layout.field, hline]
  have hmessage : '\n' ∉ Layout.field "message" (Quoted.text hidden e.message.toList) := by
    simp [Layout.field, Quoted.newline_notMem_text]
  have hrecord (status message : Text) :
      Layout.record true "Error" [("status", status), ("message", message)] =
        "Error \x7b\n".toList ++ (Layout.entry (Layout.field "status" status) ++
          Layout.entry (Layout.field "message" message)) ++ "\x7d".toList := by
    simp [Layout.record]
  rw [inspect, hspec, hrecord, Layout.entry_of_notMem hstatus, Layout.entry_of_notMem hmessage]
  simp [Layout.field]

/-- A fault on one line, without any padding. -/
theorem inspected_compact (e : Fault) :
    e.inspected hidden false =
      "Error \x7b status: ".toList ++ Numeral.decimal e.status.toInt ++
        ", message: ".toList ++ Quoted.text hidden e.message.toList ++ " \x7d".toList := by
  rw [inspected, inspect_compact hidden rfl, render_status]

theorem newline_notMem_decimal (n : Int) : '\n' ∉ Numeral.decimal n :=
  Numeral.notMem_decimal (by decide) (by decide) n

/-- A fault on many lines, without any padding. -/
theorem inspected_expanded (e : Fault) :
    e.inspected hidden true = e.expandedLines hidden [] := by
  have hline : '\n' ∉ Format.Integer.render { alternate := true } (.inspect none) .status
      e.status.toInt := by
    rw [render_status]
    exact newline_notMem_decimal _
  rw [inspected, inspect_expanded hidden rfl none e hline, render_status]
  simp [expandedLines]

/-- **Indentation moves the margin and nothing else.** -/
theorem entry_expandedLines {margin : Text} (hmargin : '\n' ∉ margin) (e : Fault) :
    Layout.entry (e.expandedLines hidden margin) =
      e.expandedLines hidden ("    ".toList ++ margin) ++ ",\n".toList := by
  have hname : '\n' ∉ margin ++ "Error \x7b".toList := by
    simp [hmargin]
  have hstatus : '\n' ∉ margin ++ ("    status: ".toList ++
      (Numeral.decimal e.status.toInt ++ [','])) := by
    simp [hmargin, newline_notMem_decimal]
  have hmessage : '\n' ∉ margin ++ ("    message: ".toList ++
      (Quoted.text hidden e.message.toList ++ [','])) := by
    simp [hmargin, Quoted.newline_notMem_text]
  have hend : '\n' ∉ margin ++ "\x7d,".toList := by
    simp [hmargin]
  have hlines : e.expandedLines hidden margin ++ [',', '\n'] =
      (margin ++ "Error \x7b".toList) ++ '\n' ::
      ((margin ++ ("    status: ".toList ++ (Numeral.decimal e.status.toInt ++ [',']))) ++
        '\n' ::
      ((margin ++ ("    message: ".toList ++
        (Quoted.text hidden e.message.toList ++ [',']))) ++ '\n' ::
      ((margin ++ "\x7d,".toList) ++ '\n' :: []))) := by
    simp [expandedLines]
  rw [Layout.entry, hlines, Layout.indent_line hname, Layout.indent_line hstatus,
    Layout.indent_line hmessage, Layout.indent_line hend]
  simp [expandedLines, Layout.indent, Layout.indentFrom]

/-- A fault is self-delimiting between any fixed texts, when a comma ends its
status and its message is quoted. -/
theorem selfDelimiting_framed (opening middle closing : Text) :
    SelfDelimiting fun e : Fault =>
      opening ++ Numeral.decimal e.status.toInt ++ (',' :: middle) ++
        Quoted.text hidden e.message.toList ++ closing := by
  have hstatus := selfDelimiting_status.lead opening
  have hmessage : SelfDelimiting fun m : String => Quoted.text hidden m.toList :=
    (Quoted.selfDelimiting_text hidden).comp fun _ _ => String.toList_injective
  have hfields := selfDelimiting_fields hstatus ((hmessage.lead middle).trail closing)
  simpa only [List.append_assoc, List.cons_append, List.nil_append] using hfields

/-- **The text of a fault determines the fault and its own end**, in either
layout. -/
theorem selfDelimiting_inspected (expanded : Bool) :
    SelfDelimiting (inspected hidden expanded) := by
  cases expanded with
  | false =>
      have hshape : inspected hidden false = fun e : Fault =>
          "Error \x7b status: ".toList ++ Numeral.decimal e.status.toInt ++
            (',' :: " message: ".toList) ++ Quoted.text hidden e.message.toList ++
            " \x7d".toList := by
        funext e
        rw [inspected_compact]
        rfl
      rw [hshape]
      exact selfDelimiting_framed hidden _ _ _
  | true =>
      have hshape : inspected hidden true = fun e : Fault =>
          "Error \x7b\n    status: ".toList ++ Numeral.decimal e.status.toInt ++
            (',' :: "\n    message: ".toList) ++ Quoted.text hidden e.message.toList ++
            ",\n\x7d".toList := by
        funext e
        rw [inspected_expanded]
        simp [expandedLines]
      rw [hshape]
      exact selfDelimiting_framed hidden _ _ _

/-- The text of a fault begins with its name, never with a bracket. -/
theorem inspected_append_ne_cons (expanded : Bool) (e : Fault) (r s : Text) :
    e.inspected hidden expanded ++ r ≠ ']' :: s := by
  intro heq
  cases expanded with
  | false =>
      rw [inspected_compact] at heq
      exact absurd (List.cons.inj heq).1 (by decide)
  | true =>
      rw [inspected_expanded] at heq
      exact absurd (List.cons.inj heq).1 (by decide)

end Fault

/-! ## Arguments -/

variable (hidden : Char → Bool) (names : List String)

/-- What an inspecting placeholder makes of an argument. -/
def shown (expanded : Bool) (x : Argument) : Except TemplateError Text :=
  Template.fill hidden names [x] (Template.inspecting expanded).toList

/-- Each value has a text when it is given as an argument, and the text
determines the value. -/
structure ShownUnambiguously {α : Type} (expanded : Bool) (argument : α → Argument) : Prop where
  /-- No value is refused. -/
  hasText : ∀ a, ∃ text, shown hidden names expanded (argument a) = .ok text
  /-- No two values are shown alike. -/
  determined : ∀ a b, shown hidden names expanded (argument a) =
    shown hidden names expanded (argument b) → a = b

theorem SelfDelimiting.shownUnambiguously {α : Type} {write : α → Text}
    (hwrite : SelfDelimiting write) {expanded : Bool} {argument : α → Argument}
    (hshown : ∀ a, shown hidden names expanded (argument a) = .ok (write a)) :
    ShownUnambiguously hidden names expanded argument where
  hasText a := ⟨write a, hshown a⟩
  determined a b heq := by
    rw [hshown, hshown] at heq
    exact hwrite.injective (Except.ok.inj heq)

theorem shown_fault (expanded : Bool) (e : Fault) :
    shown hidden names expanded (.scalar (.fault e)) = .ok (e.inspected hidden expanded) :=
  Template.fill_inspecting rfl

theorem shown_option (expanded : Bool) (o : Option Fault) :
    shown hidden names expanded (.option (o.map .fault)) =
      .ok (Layout.option expanded (o.map (Fault.inspected hidden expanded))) := by
  cases o with
  | none => exact Template.fill_inspecting rfl
  | some e => exact Template.fill_inspecting rfl

theorem shown_list (expanded : Bool) (es : List Fault) :
    shown hidden names expanded (.list (es.map .fault)) =
      .ok (Layout.list expanded (es.map (Fault.inspected hidden expanded))) := by
  have hparts : (es.map Scalar.fault).mapM
      (Scalar.render? hidden { alternate := expanded } (.inspect none)) =
        some (es.map (Fault.inspected hidden expanded)) := by
    induction es with
    | nil => rfl
    | cons e es ih =>
        rw [List.map_cons, List.mapM_cons, ih]
        rfl
  refine Template.fill_inspecting ?_
  rw [Argument.render?, hparts]
  rfl

/-- **Faults are inspected without ambiguity**, whichever characters are spelled
by number.  Alone, as values that may be absent, and in lists, and in either
layout, each value has a text that no other value has; and no text of a fault
is a proper beginning of another.  A message stands between double quotes
without a newline, and the first double quote behind the opening one that no
backslash escapes is the closing one.  So the expanded layouts, which indent
each line, hold the same quoted message as the compact one. -/
theorem inspectedFaults_unambiguous :
    (∀ expanded : Bool,
      ShownUnambiguously hidden names expanded (fun e : Fault => .scalar (.fault e)) ∧
      ShownUnambiguously hidden names expanded
        (fun o : Option Fault => .option (o.map .fault)) ∧
      ShownUnambiguously hidden names expanded
        (fun es : List Fault => .list (es.map .fault)) ∧
      ∀ (e f : Fault) (text other : Text),
        shown hidden names expanded (.scalar (.fault e)) = .ok text →
        shown hidden names expanded (.scalar (.fault f)) = .ok other →
        text <+: other → text = other) ∧
    (∀ message : String, ∃ body : Text,
      Quoted.text hidden message.toList = '"' :: body ++ ['"'] ∧ '\n' ∉ body ∧
      ∀ rest, Quoted.scanQuoted (body ++ '"' :: rest) = some (body, rest)) ∧
    (∀ e : Fault, shown hidden names false (.scalar (.fault e)) =
      .ok ("Error \x7b status: ".toList ++ Numeral.decimal e.status.toInt ++
        ", message: ".toList ++ Quoted.text hidden e.message.toList ++ " \x7d".toList)) ∧
    (∀ e : Fault, shown hidden names true (.scalar (.fault e)) =
      .ok (e.expandedLines hidden [])) ∧
    (∀ e : Fault, shown hidden names true (.option (some (.fault e))) =
      .ok ("Some(\n".toList ++ e.expandedLines hidden "    ".toList ++ ",\n)".toList)) ∧
    (∀ (e : Fault) (es : List Fault), shown hidden names true (.list ((e :: es).map .fault)) =
      .ok ("[\n".toList ++ (e :: es).flatMap (fun f =>
        f.expandedLines hidden "    ".toList ++ ",\n".toList) ++ "]".toList)) := by
  have hentry (e : Fault) : Layout.entry (e.inspected hidden true) =
      e.expandedLines hidden "    ".toList ++ ",\n".toList := by
    rw [Fault.inspected_expanded, Fault.entry_expandedLines hidden List.not_mem_nil]
    rfl
  refine ⟨fun expanded => ?_, fun message => ?_, fun e => ?_, fun e => ?_, fun e => ?_,
    fun e es => ?_⟩
  · have hfault := Fault.selfDelimiting_inspected hidden expanded
    refine ⟨hfault.shownUnambiguously hidden names (shown_fault hidden names expanded),
      (hfault.option expanded).shownUnambiguously hidden names
        (shown_option hidden names expanded),
      (hfault.list (Fault.inspected_append_ne_cons hidden expanded)
        expanded).shownUnambiguously hidden names (shown_list hidden names expanded), ?_⟩
    intro e f text other he hf hbegin
    rw [shown_fault] at he hf
    obtain rfl := Except.ok.inj he
    obtain rfl := Except.ok.inj hf
    rw [hfault.eq_of_isPrefix hbegin]
  · refine ⟨Quoted.spellAll hidden '"' message.toList, rfl, ?_,
      Quoted.scanQuoted_spellAll hidden message.toList⟩
    intro hmem
    refine Quoted.newline_notMem_text hidden message.toList ?_
    exact List.mem_cons_of_mem _ (List.mem_append_left _ hmem)
  · rw [shown_fault, Fault.inspected_compact]
  · rw [shown_fault, Fault.inspected_expanded]
  · have hoption := shown_option hidden names true (some e)
    simpa [Layout.option, Layout.tuple, hentry] using hoption
  · rw [shown_list, Layout.list, if_pos (by simp), List.flatMap_map]
    simp only [hentry]
    rfl

end Faults
