import Faults.Fault.Draft
import Faults.Proofs.CanonicalText
import Faults.Proofs.SinglePlaceholder
import Faults.Tagging.Stage
import Mathlib.Data.List.Induction

/-!
# Chains of tags

A failure that is given a status becomes a fault; given another status, it
becomes a fault whose message is the canonical text of the first; and so on.
The result is a **chain**: `Faults.chain` puts strict stages in a row on a text
that failed and takes the fault at the end.  Each layer's text stands in the
next one unescaped, and still no layer is lost.

* `carried` — the text that the next stage of a chain will find;
  `toList_carried`: it is the original text behind one heading for each stage,
  the latest first;
* `chain_append_singleton` — one more stage wraps what the stages before carry;
* `layered_eq_chain` — a layer may be built by a template instead, one layer or
  all of them;
* `peeled_chain` — reading the message of a fault again and again leads back
  through the chain, layer by layer;
* `carried_eq_carried_iff` — two chains meet exactly where the longer one
  passes through the text with which the shorter one began;
* `chains_keep_every_layer` — all of it for the faults at the end.
-/

namespace Faults

/-- The fault at the end of a row of stages that came to its end in one. -/
def Report.lastFault? {ε α : Type} (report : Report ε α) : Option Fault :=
  match report.results with
  | .error _ => none
  | .ok results =>
    match results.getLast? with
    | some (.error e) => some e
    | _ => none

/-- The fault at the end of a chain: strict stages with these statuses, in this
order, on a text that failed. -/
def chain (α : Type) (text : String) : List Int32 → Option Fault
  | [] => none
  | status :: later =>
    (Stage.runAll (.strict status) (later.map .strict)
      (.error (.text text) : Except Failure α)).lastFault?

/-- The canonical text of the fault with a status around a text. -/
def wrappedText (text : String) (status : Int32) : String :=
  Fault.canonical ⟨status, text⟩

/-- The text that stages with these statuses have made of a text. -/
def carried (text : String) (statuses : List Int32) : String :=
  statuses.foldl wrappedText text

/-- The faults after each stage of a chain. -/
def layers (text : String) : List Int32 → List Fault
  | [] => []
  | status :: later => ⟨status, text⟩ :: layers (wrappedText text status) later

/-! ## One stage -/

theorem apply_strict_fault {α : Type} (status : Int32) (e : Fault) :
    (Stage.strict status).apply (.error e : Except Fault α) =
      .ok (.error ⟨status, e.canonical⟩) :=
  rfl

theorem apply_strict_text {α : Type} (status : Int32) (text : String) :
    (Stage.strict status).apply (.error (.text text) : Except Failure α) =
      .ok (.error ⟨status, text⟩) :=
  rfl

/-! ## Stages in a row -/

/-- Strict stages on a fault yield the layers around its canonical text. -/
theorem results_runLater_strict {α : Type} (statuses : List Int32) (e : Fault) :
    (Stage.runLater (statuses.map .strict) (.error e : Except Fault α)).results =
      .ok ((layers e.canonical statuses).map .error) := by
  induction statuses generalizing e with
  | nil => rfl
  | cons status later ih =>
      rw [List.map_cons, Stage.runLater_cons, apply_strict_fault]
      simp only [ih]
      rfl

/-- Strict stages on a text that failed yield the layers around the text. -/
theorem results_runAll_strict {α : Type} (text : String) (status : Int32)
    (later : List Int32) :
    (Stage.runAll (.strict status) (later.map .strict)
      (.error (.text text) : Except Failure α)).results =
      .ok ((layers text (status :: later)).map .error) := by
  rw [Stage.runAll_eq, apply_strict_text]
  simp only [results_runLater_strict]
  rfl

/-- A chain ends in its last layer. -/
theorem chain_eq_getLast? (α : Type) (text : String) (statuses : List Int32) :
    chain α text statuses = (layers text statuses).getLast? := by
  cases statuses with
  | nil => rfl
  | cons status later =>
      rw [chain, Report.lastFault?, results_runAll_strict]
      simp only [List.getLast?_map]
      cases (layers text (status :: later)).getLast? <;> rfl

theorem layers_append_singleton (text : String) (statuses : List Int32) (status : Int32) :
    layers text (statuses ++ [status]) =
      layers text statuses ++ [⟨status, carried text statuses⟩] := by
  induction statuses generalizing text with
  | nil => rfl
  | cons first later ih =>
      rw [List.cons_append, layers, ih]
      rfl

theorem carried_append (text : String) (ss us : List Int32) :
    carried text (ss ++ us) = carried (carried text ss) us :=
  List.foldl_append

/-- One more stage wraps what the stages before it carry. -/
theorem chain_append_singleton (α : Type) (text : String) (statuses : List Int32)
    (status : Int32) :
    chain α text (statuses ++ [status]) = some ⟨status, carried text statuses⟩ := by
  rw [chain_eq_getLast?, layers_append_singleton, List.getLast?_concat]

/-- What a chain carries is the canonical text of the fault at its end. -/
theorem canonical_of_chain {α : Type} {text : String} {statuses : List Int32} {e : Fault}
    (h : chain α text statuses = some e) : e.canonical = carried text statuses := by
  induction statuses using List.reverseRecOn with
  | nil => exact nomatch h
  | append_singleton statuses status ih =>
      rw [chain_append_singleton] at h
      obtain rfl := Option.some.inj h
      rw [carried_append]
      rfl

/-- What a chain carries: one heading for each stage, the latest first, and
behind them the text that failed. -/
theorem toList_carried (text : String) (statuses : List Int32) :
    (carried text statuses).toList = statuses.reverse.flatMap Fault.heading ++ text.toList := by
  induction statuses using List.reverseRecOn with
  | nil => rfl
  | append_singleton statuses status ih =>
      have hwrap : (carried text (statuses ++ [status])).toList =
          Fault.heading status ++ (carried text statuses).toList := by
        rw [carried_append]
        exact String.toList_ofList
      rw [hwrap, ih, List.reverse_append, List.flatMap_append]
      simp

/-- A chain with at least one stage ends in a fault, and in one with the status
of its last stage. -/
theorem exists_chain (α : Type) (text : String) {statuses : List Int32}
    (hne : statuses ≠ []) :
    ∃ e, chain α text statuses = some e ∧ statuses.getLast? = some e.status := by
  obtain hnil | ⟨before, status, rfl⟩ := List.eq_nil_or_concat' statuses
  · exact absurd hnil hne
  · exact ⟨_, chain_append_singleton α text before status, List.getLast?_concat⟩

/-! ## Layers built by templates -/

/-- How a layer is put around what failed. -/
inductive Layering where
  /-- By a strict stage. -/
  | tagged
  /-- By a template that is nothing but a place for it. -/
  | filled
  deriving DecidableEq, Repr

/-- The first layer, around a text. -/
def Layering.first (α : Type) (names : List String) (text : String) (status : Int32) :
    Layering → Option Fault
  | tagged => chain α text [status]
  | filled => (Fault.ofTemplate names status Template.plain [.scalar (.text text)]).toOption

/-- A further layer, around a fault. -/
def Layering.next (α : Type) (names : List String) (e : Fault) (status : Int32) :
    Layering → Option Fault
  | tagged => ((Stage.runLater [.strict status] (.error e : Except Fault α)).lastFault?)
  | filled => (Fault.ofTemplate names status Template.plain [.scalar (.fault e)]).toOption

/-- The fault at the end of layers, each of which is built in its own way. -/
def layered (α : Type) (names : List String) (text : String) :
    List (Layering × Int32) → Option Fault
  | [] => none
  | (how, status) :: later =>
    later.foldl (fun e? layer => e?.bind fun e => layer.1.next α names e layer.2)
      (how.first α names text status)

theorem Layering.first_eq (α : Type) (names : List String) (text : String)
    (status : Int32) (how : Layering) :
    how.first α names text status = some ⟨status, text⟩ := by
  cases how with
  | tagged => exact chain_append_singleton α text [] status
  | filled =>
      have hrender : (Argument.scalar (.text text)).render? isHidden {} .plain =
          some text.toList := by
        simp [Argument.render?, Scalar.render?, Spec.textual, Spec.pad]
      rw [first, Fault.ofTemplate, Template.fill_plain hrender]
      simp [Except.map, Except.toOption]

theorem Layering.next_eq (α : Type) (names : List String) (e : Fault) (status : Int32)
    (how : Layering) : how.next α names e status = some ⟨status, e.canonical⟩ := by
  cases how with
  | tagged => rfl
  | filled =>
      have hrender : (Argument.scalar (.fault e)).render? isHidden {} .plain =
          some e.canonicalText := rfl
      rw [next, Fault.ofTemplate, Template.fill_plain hrender]
      rfl

/-- **It does not matter how a layer is built.**  Layers built by templates,
all of them or some, end in the fault of the chain of strict stages. -/
theorem layered_eq_chain (α : Type) (names : List String) (text : String)
    (built : List (Layering × Int32)) :
    layered α names text built = chain α text (built.map Prod.snd) := by
  cases built with
  | nil => rfl
  | cons first later =>
      rw [layered, Layering.first_eq]
      induction later using List.reverseRecOn with
      | nil => exact (chain_append_singleton α text [] first.2).symm
      | append_singleton later last ih =>
          have hne : (first :: later).map Prod.snd ≠ [] := List.cons_ne_nil _ _
          obtain ⟨e, he, -⟩ := exists_chain α text hne
          have hcons : (first :: (later ++ [last])).map Prod.snd =
              (first :: later).map Prod.snd ++ [last.2] := by simp
          rw [List.foldl_append, ih, he, hcons, chain_append_singleton]
          show last.1.next α names e last.2 = _
          rw [Layering.next_eq, canonical_of_chain he]

/-! ## Recovering the layers -/

/-- What is found by reading the message of a fault as a canonical text, so many
times in a row. -/
def Fault.peeled : Nat → Fault → Option Fault
  | 0, e => some e
  | n + 1, e => (Fault.ofCanonical? e.message).bind (peeled n)

/-- **No layer is lost.**  Peeling off the later stages leads back to the fault
that the earlier ones ended in. -/
theorem peeled_chain {α : Type} {text : String} {ss us : List Int32} {e : Fault}
    (hne : ss ≠ []) (h : chain α text (ss ++ us) = some e) :
    e.peeled us.length = chain α text ss := by
  induction us using List.reverseRecOn generalizing e with
  | nil =>
      rw [List.append_nil] at h
      exact h.symm
  | append_singleton us status ih =>
      have hboth : ss ++ us ≠ [] := List.append_ne_nil_of_left_ne_nil hne us
      obtain ⟨inner, hinner, -⟩ := exists_chain α text hboth
      rw [← List.append_assoc, chain_append_singleton, ← canonical_of_chain hinner] at h
      obtain rfl := Option.some.inj h
      have hread : Fault.ofCanonical? inner.canonical = some inner :=
        Fault.ofCanonical?_eq_some_iff.mpr rfl
      rw [List.length_append, List.length_singleton, Fault.peeled, hread, Option.bind_some]
      exact ih hinner

/-! ## Two chains -/

/-- Chains of equally many stages that carry the same text have the same stages
and began with the same text. -/
theorem carried_inj {t u : String} {ss us : List Int32} (hlength : ss.length = us.length)
    (heq : carried t ss = carried u us) : ss = us ∧ t = u := by
  have htexts : ss.reverse.flatMap Fault.heading ++ t.toList =
      us.reverse.flatMap Fault.heading ++ u.toList := by
    rw [← toList_carried, ← toList_carried, heq]
  obtain ⟨hstages, hinner⟩ :=
    Fault.selfDelimiting_heading.flatMap_append (by simpa using hlength) htexts
  exact ⟨List.reverse_injective hstages, String.toList_injective hinner⟩

/-- **Two chains meet where the longer one passes through the text with which
the shorter one began**, and if the stages behind that place are the same. -/
theorem carried_eq_carried_iff {t u : String} {ss us : List Int32}
    (hle : ss.length ≤ us.length) :
    carried t ss = carried u us ↔
      ss = us.drop (us.length - ss.length) ∧
        t = carried u (us.take (us.length - ss.length)) := by
  have hsplit : carried u us =
      carried (carried u (us.take (us.length - ss.length)))
        (us.drop (us.length - ss.length)) := by
    rw [← carried_append, List.take_append_drop]
  have hlength : ss.length = (us.drop (us.length - ss.length)).length := by
    rw [List.length_drop]
    omega
  rw [hsplit]
  constructor
  · intro heq
    exact carried_inj hlength heq
  · rintro ⟨hstages, hinner⟩
    rw [← hstages, ← hinner]

/-- Chains end in the same fault when they carry the same text. -/
theorem chain_eq_chain_iff {α : Type} {t u : String} {ss us : List Int32}
    (hss : ss ≠ []) (hus : us ≠ []) :
    chain α t ss = chain α u us ↔ carried t ss = carried u us := by
  obtain ⟨e, he, -⟩ := exists_chain α t hss
  obtain ⟨f, hf, -⟩ := exists_chain α u hus
  rw [he, hf, ← canonical_of_chain he, ← canonical_of_chain hf, Option.some.injEq]
  exact Fault.canonical_injective.eq_iff.symm

/-- The message that a chain carries at a stage is what the stages before it
have made of the text. -/
theorem message_of_chain_take (α : Type) (u : String) {us : List Int32} {n : Nat}
    (hn : n < us.length) :
    ∃ e, chain α u (us.take (n + 1)) = some e ∧ e.message = carried u (us.take n) := by
  rw [List.take_succ_eq_append_getElem hn]
  exact ⟨_, chain_append_singleton α u _ _, rfl⟩

/-- What a chain of one stage or more carries is a canonical text. -/
theorem ofCanonical?_carried {u : String} {us : List Int32} (hne : us ≠ []) :
    ∃ e, Fault.ofCanonical? (carried u us) = some e := by
  obtain ⟨e, he, -⟩ := exists_chain Unit u hne
  exact ⟨e, Fault.ofCanonical?_eq_some_iff.mpr (canonical_of_chain he)⟩

/-- A shorter chain that ends like a longer one began with a canonical text. -/
theorem ofCanonical?_of_carried_eq {t u : String} {ss us : List Int32}
    (hlt : ss.length < us.length) (heq : carried t ss = carried u us) :
    ∃ e, Fault.ofCanonical? t = some e := by
  have hinner := ((carried_eq_carried_iff (by omega)).mp heq).2
  have hne : us.take (us.length - ss.length) ≠ [] := by
    rw [← List.length_pos_iff, List.length_take]
    omega
  rw [hinner]
  exact ofCanonical?_carried hne

/-- **Ambiguity comes from the innermost text alone.**  Chains on texts that are
no canonical texts are told apart by the faults at their ends. -/
theorem chain_inj_of_not_canonical {α : Type} {t u : String} {ss us : List Int32}
    (hss : ss ≠ []) (hus : us ≠ []) (ht : Fault.ofCanonical? t = none)
    (hu : Fault.ofCanonical? u = none) (heq : chain α t ss = chain α u us) :
    ss = us ∧ t = u := by
  have hcarried := (chain_eq_chain_iff hss hus).mp heq
  rcases Nat.lt_trichotomy ss.length us.length with hlt | hlength | hgt
  · obtain ⟨e, he⟩ := ofCanonical?_of_carried_eq hlt hcarried
    exact absurd (ht.symm.trans he) (by simp)
  · exact carried_inj hlength hcarried
  · obtain ⟨e, he⟩ := ofCanonical?_of_carried_eq hgt hcarried.symm
    exact absurd (hu.symm.trans he) (by simp)

/-- **Chains keep every layer.**  A chain ends in a fault with its last status,
whose canonical text is one heading for each stage, the latest first, and then
the text that failed; each stage wraps the canonical text of the one before;
it does not matter how a layer is built; peeling leads back to every layer.
Two chains end in the same fault exactly when the stages of the shorter are
the last ones of the longer and its text is the message that the longer
carries at the first of these; so with equally many stages they are the same
chain, and likewise if neither text is itself a canonical text. -/
theorem chains_keep_every_layer (α : Type) (names : List String) :
    (∀ (t : String) (ss : List Int32), ss ≠ [] →
      ∃ e, chain α t ss = some e ∧ ss.getLast? = some e.status ∧
        e.canonical.toList = ss.reverse.flatMap (fun s =>
          "errCode: ".toList ++ Numeral.decimal s.toInt ++ ", errMsg: ".toList) ++ t.toList) ∧
    (∀ (t : String) (s : Int32), chain α t [s] = some ⟨s, t⟩) ∧
    (∀ (t : String) (ss : List Int32) (s : Int32) (e : Fault), chain α t ss = some e →
      chain α t (ss ++ [s]) = some ⟨s, e.canonical⟩) ∧
    (∀ (t : String) (built : List (Layering × Int32)),
      layered α names t built = chain α t (built.map Prod.snd)) ∧
    (∀ (t : String) (ss us : List Int32) (e : Fault), ss ≠ [] →
      chain α t (ss ++ us) = some e → e.peeled us.length = chain α t ss) ∧
    (∀ (t u : String) (ss us : List Int32), ss ≠ [] → ss.length ≤ us.length →
      (chain α t ss = chain α u us ↔
        ss = us.drop (us.length - ss.length) ∧
          ∃ e, chain α u (us.take (us.length - ss.length + 1)) = some e ∧ t = e.message)) ∧
    (∀ (t u : String) (ss us : List Int32), ss ≠ [] → ss.length = us.length →
      chain α t ss = chain α u us → ss = us ∧ t = u) ∧
    (∀ (t u : String) (ss us : List Int32), ss ≠ [] → us ≠ [] →
      Fault.ofCanonical? t = none → Fault.ofCanonical? u = none →
      chain α t ss = chain α u us → ss = us ∧ t = u) := by
  have hlonger {ss us : List Int32} (hne : ss ≠ []) (hle : ss.length ≤ us.length) :
      us ≠ [] := by
    rintro rfl
    exact hne (List.length_eq_zero_iff.mp (Nat.le_zero.mp hle))
  refine ⟨?_, fun t s => chain_append_singleton α t [] s, ?_,
    layered_eq_chain α names, fun t ss us e => peeled_chain, ?_, ?_,
    fun t u ss us => chain_inj_of_not_canonical⟩
  · intro t ss hne
    obtain ⟨e, he, hstatus⟩ := exists_chain α t hne
    refine ⟨e, he, hstatus, ?_⟩
    rw [canonical_of_chain he]
    exact toList_carried t ss
  · intro t ss s e he
    rw [chain_append_singleton, canonical_of_chain he]
  · intro t u ss us hne hle
    have hpos : 0 < ss.length := List.length_pos_iff.mpr hne
    have hstage : us.length - ss.length < us.length := by omega
    obtain ⟨e, he, hmessage⟩ := message_of_chain_take α u hstage
    rw [chain_eq_chain_iff hne (hlonger hne hle), carried_eq_carried_iff hle, he]
    simp only [Option.some.injEq, exists_eq_left', hmessage]
  · intro t u ss us hne hlength heq
    have hcarried := (chain_eq_chain_iff hne (hlonger hne (by omega))).mp heq
    exact carried_inj hlength hcarried

end Faults
