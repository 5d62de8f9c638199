import Faults.Proofs.SerializedRecords
import Mathlib.Logic.ExistsUnique

/-!
# What a logger emits is the way to its root

A tree of loggers grows by steps, in any order and to any shape, and a record
emits its own pairs, then those of its logger, then those of every logger above.
This file tells the same story without any library for logging.  A **genealogy** is a
plain list: for each logger, in the order of their making, the emissions that are
its own and the number of its parent.  It is written down step by step
from the history alone (`Genealogy.of`), and following the numbers of the
parents leads from each logger to the root (`Genealogy.IsPath`).

* `Genealogy.IsPath.append`, `Genealogy.IsPath.unique` — a path stays a path
  while the genealogy grows, and there is no second one;
* `Genealogy.Describes` — the invariant: a genealogy describes the loggers that
  there are, number by number; `Genealogy.Describes.next` says that every step
  keeps it, `describes_grown` that every history does;
* `LogLibrary.getElem?_captures` — what a drain observes at a step is a matter of
  the loggers that the steps before it made;
* `LogLibrary.Lawful.captured_of_isPath`, `LogLibrary.run_of_missing` — what that is, for
  a step that names a logger and for one that does not;
* `emissions_follow_path_to_root` — all of it for every history and every lawful library.
-/

namespace Faults

/-- What a drain observes of a pair. -/
def Pair.emissions (pair : Pair) : List Emission :=
  pair.offers.map Offer.emission

theorem Pair.map_offers (pairs : List Pair) :
    (pairs.flatMap Pair.offers).map Offer.emission = pairs.flatMap Pair.emissions :=
  List.map_flatMap

/-- What is written down about a logger when it is made. -/
structure Descent where
  /-- The emissions of its own pairs. -/
  own : List Emission
  /-- The number of its parent; the root has none. -/
  parent : Option Nat
  deriving DecidableEq, Repr

/-- What is written down about the loggers of a history, in the order of their
making. -/
abbrev Genealogy := List Descent

namespace Genealogy

/-- Writes down what a step adds: a line for a new logger, and nothing for a
record, nor for a step that names a logger which is not there. -/
def next (g : Genealogy) (step : LogStep) : Genealogy :=
  if step.logger < g.length then
    match step.action with
    | .child pairs => g ++ [⟨pairs.flatMap Pair.emissions, some step.logger⟩]
    | .childOf e =>
      g ++ [⟨[⟨"err_code", .int32 e.status⟩, ⟨"err_msg", .text e.message⟩],
        some step.logger⟩]
    | .logFault _ => g
    | .log _ _ _ _ => g
  else g

/-- The genealogy of a history that began with a root of the given pairs. -/
def of (root : List Pair) (steps : List LogStep) : Genealogy :=
  steps.foldl next [⟨root.flatMap Pair.emissions, none⟩]

/-- The numbers of the parents lead from a logger to the root, by loggers whose
own emissions are these. -/
inductive IsPath (g : Genealogy) : Nat → List (List Emission) → Prop
  | root {i : Nat} {own : List Emission} (h : g[i]? = some ⟨own, none⟩) : IsPath g i [own]
  | up {i j : Nat} {own : List Emission} {above : List (List Emission)}
      (h : g[i]? = some ⟨own, some j⟩) (tail : IsPath g j above) : IsPath g i (own :: above)

variable {g : Genealogy} {i : Nat}

/-- What is written down later does not change a path. -/
theorem IsPath.append {along : List (List Emission)} (h : g.IsPath i along)
    (more : Genealogy) : IsPath (g ++ more) i along := by
  have hkept {j : Nat} {d : Descent} (hd : g[j]? = some d) : (g ++ more)[j]? = some d := by
    obtain ⟨hlt, -⟩ := List.getElem?_eq_some_iff.mp hd
    rw [List.getElem?_append_left hlt, hd]
  induction h with
  | root h => exact .root (hkept h)
  | up h _ ih => exact .up (hkept h) ih

theorem IsPath.unique {along others : List (List Emission)} (h : g.IsPath i along)
    (h' : g.IsPath i others) : along = others := by
  induction h generalizing others with
  | root h =>
      cases h' with
      | root hother => simp_all
      | up hother _ => simp_all
  | up h _ ih =>
      cases h' with
      | root hother => simp_all
      | up hother tail =>
          have hsame := Option.some.inj (h.symm.trans hother)
          simp only [Descent.mk.injEq, Option.some.injEq] at hsame
          obtain ⟨rfl, rfl⟩ := hsame
          rw [ih tail]

theorem IsPath.lt_length {along : List (List Emission)} (h : g.IsPath i along) :
    i < g.length := by
  cases h with
  | root h => exact (List.getElem?_eq_some_iff.mp h).1
  | up h _ => exact (List.getElem?_eq_some_iff.mp h).1

/-! ## The invariant -/

/-- A genealogy describes loggers: there is a line for each of them, and what stands on
its path is what the pairs emit with which it and those above it were made. -/
structure Describes (L : LogLibrary) (g : Genealogy) (loggers : List L.Logger) : Prop where
  length : loggers.length = g.length
  path : ∀ i logger, loggers[i]? = some logger → ∃ along above, g.IsPath i along ∧
    L.MadeOf logger above ∧ above.flatMap Pair.emissions = along.flatten

variable {L : LogLibrary}

theorem Describes.root (pairs : List Pair) :
    Describes L [⟨pairs.flatMap Pair.emissions, none⟩] [L.root pairs] where
  length := rfl
  path i logger h := by
    obtain ⟨rfl, rfl⟩ : i = 0 ∧ L.root pairs = logger := by
      cases i with
      | zero => exact ⟨rfl, Option.some.inj h⟩
      | succ i => exact absurd h (by simp)
    exact ⟨_, pairs, .root rfl, .root pairs, by simp⟩

/-- A new logger is described by its own emissions and the number of its parent. -/
theorem Describes.child {loggers : List L.Logger} {parent : L.Logger}
    (h : g.Describes L loggers) (hparent : loggers[i]? = some parent) (pairs : List Pair) :
    Describes L (g ++ [⟨pairs.flatMap Pair.emissions, some i⟩])
      (loggers ++ [L.child pairs parent]) where
  length := by simp [h.length]
  path j logger hj := by
    -- An old logger keeps its path; the new one stands below that of its parent.
    rcases Nat.lt_or_ge j loggers.length with hlt | hge
    · rw [List.getElem?_append_left hlt] at hj
      obtain ⟨along, above, hpath, hmade, hemits⟩ := h.path j logger hj
      exact ⟨along, above, hpath.append _, hmade, hemits⟩
    · obtain ⟨rfl, rfl⟩ : j = loggers.length ∧ L.child pairs parent = logger := by
        rw [List.getElem?_append_right hge] at hj
        have hbound := (List.getElem?_eq_some_iff.mp hj).1
        have hj' : j - loggers.length = 0 := by simpa using hbound
        rw [hj'] at hj
        exact ⟨by omega, Option.some.inj hj⟩
      obtain ⟨along, above, hpath, hmade, hemits⟩ := h.path i parent hparent
      refine ⟨pairs.flatMap Pair.emissions :: along, pairs ++ above,
        .up ?_ (hpath.append _), .child pairs hmade, ?_⟩
      · rw [h.length, List.getElem?_concat_length]
      · rw [List.flatMap_append, hemits, List.flatten_cons]

/-- **Every step keeps the invariant**: what it does to the loggers is what it
adds to the genealogy. -/
theorem Describes.next {loggers : List L.Logger} (h : g.Describes L loggers) (step : LogStep) :
    (g.next step).Describes L (L.next loggers step) := by
  by_cases hlt : step.logger < g.length
  · have hexists : step.logger < loggers.length := h.length ▸ hlt
    have hlogger : loggers[step.logger]? = some loggers[step.logger] :=
      List.getElem?_eq_getElem hexists
    rw [Genealogy.next, if_pos hlt, L.next_of_some hlogger]
    cases step.action with
    | child pairs => exact h.child hlogger pairs
    | childOf e => exact h.child hlogger [.spread e]
    | logFault e => exact h
    | log severity tag message pairs => exact h
  · have hnone : loggers[step.logger]? = none := by
      rw [List.getElem?_eq_none_iff, h.length]
      omega
    rw [Genealogy.next, if_neg hlt, L.next_of_none hnone]
    exact h

theorem describes_grown (L : LogLibrary) (root : List Pair) (steps : List LogStep) :
    (Genealogy.of root steps).Describes L (L.grown [L.root root] steps) := by
  have hsteps {g : Genealogy} {loggers : List L.Logger} (h : g.Describes L loggers) :
      (steps.foldl Genealogy.next g).Describes L (L.grown loggers steps) := by
    induction steps generalizing g loggers with
    | nil => exact h
    | cons step steps ih => exact ih (h.next step)
  exact hsteps (.root root)

theorem of_append (root : List Pair) (before after : List LogStep) :
    Genealogy.of root (before ++ after) = after.foldl Genealogy.next (Genealogy.of root before) :=
  List.foldl_append

/-- A genealogy only grows. -/
theorem exists_foldl_next (g : Genealogy) (steps : List LogStep) :
    ∃ more, steps.foldl Genealogy.next g = g ++ more := by
  induction steps generalizing g with
  | nil => exact ⟨[], (List.append_nil g).symm⟩
  | cons step steps ih =>
      have hstep : ∃ more, g.next step = g ++ more := by
        unfold Genealogy.next
        split
        · cases step.action with
          | child pairs => exact ⟨_, rfl⟩
          | childOf e => exact ⟨_, rfl⟩
          | logFault e => exact ⟨[], (List.append_nil g).symm⟩
          | log severity tag message pairs => exact ⟨[], (List.append_nil g).symm⟩
        · exact ⟨[], (List.append_nil g).symm⟩
      obtain ⟨more, hmore⟩ := hstep
      obtain ⟨others, hothers⟩ := ih (g.next step)
      refine ⟨more ++ others, ?_⟩
      rw [List.foldl_cons, hothers, hmore, List.append_assoc]

/-- A logger keeps its path whatever happens later. -/
theorem IsPath.later {root : List Pair} {before : List LogStep} {along : List (List Emission)}
    (h : (Genealogy.of root before).IsPath i along) (later : List LogStep) :
    (Genealogy.of root (before ++ later)).IsPath i along := by
  obtain ⟨more, hmore⟩ := exists_foldl_next (Genealogy.of root before) later
  rw [of_append, hmore]
  exact h.append more

end Genealogy

/-! ## Histories -/

namespace LogLibrary

variable {L : LogLibrary}

/-- A history takes up where the one before it ended. -/
theorem runAll_append (loggers : List L.Logger) (before after : List LogStep) :
    L.runAll loggers (before ++ after) =
      L.runAll loggers before ++ L.runAll (L.grown loggers before) after := by
  induction before generalizing loggers with
  | nil => rfl
  | cons step before ih =>
      rw [List.cons_append, runAll, ih]
      rfl

/-- What a capturing drain that refuses nothing keeps of one step, when these are the
loggers. -/
def captured (L : LogLibrary) (loggers : List L.Logger) (step : LogStep) : Option Captured :=
  (L.logged? loggers step).bind (L.capture? .trace none)

theorem captures_cons (loggers : List L.Logger) (step : LogStep) (steps : List LogStep) :
    L.captures .trace none loggers (step :: steps) =
      L.captured loggers step :: L.captures .trace none (L.next loggers step) steps :=
  rfl

theorem captures_append (loggers : List L.Logger) (before after : List LogStep) :
    L.captures .trace none loggers (before ++ after) =
      L.captures .trace none loggers before ++
        L.captures .trace none (L.grown loggers before) after := by
  induction before generalizing loggers with
  | nil => rfl
  | cons step before ih =>
      rw [List.cons_append, captures_cons, ih]
      rfl

/-- **What is observed at a step is a matter of the loggers that the steps before
it made.** -/
theorem getElem?_captures (loggers : List L.Logger) (steps : List LogStep) (n : Nat) :
    (L.captures .trace none loggers steps)[n]? =
      steps[n]?.map (L.captured (L.grown loggers (steps.take n))) := by
  induction steps generalizing loggers n with
  | nil => rfl
  | cons step steps ih =>
      cases n with
      | zero => rfl
      | succ n =>
          rw [captures_cons, List.getElem?_cons_succ, ih]
          rfl

theorem length_captures (loggers : List L.Logger) (steps : List LogStep) :
    (L.captures .trace none loggers steps).length = steps.length := by
  induction steps generalizing loggers with
  | nil => rfl
  | cons step steps ih =>
      rw [captures_cons, List.length_cons, ih]
      rfl

theorem length_runAll (loggers : List L.Logger) (steps : List LogStep) :
    (L.runAll loggers steps).length = steps.length := by
  induction steps generalizing loggers with
  | nil => rfl
  | cons step steps ih =>
      rw [runAll, List.length_cons, ih]
      rfl

/-- A step that names no logger is answered by the number and leaves the loggers
alone. -/
theorem run_of_missing {loggers : List L.Logger} {step : LogStep}
    (h : loggers.length ≤ step.logger) :
    L.run loggers step = .error step.logger ∧ L.captured loggers step = none ∧
      L.next loggers step = loggers := by
  have hnone : loggers[step.logger]? = none := List.getElem?_eq_none_iff.mpr h
  refine ⟨L.run_of_none hnone, ?_, L.next_of_none hnone⟩
  rw [captured, L.logged?_of_none hnone]
  rfl

end LogLibrary

/-! ## What is observed -/

/-- The emissions of the own pairs of the record that an action logs. -/
def LogAction.own : LogAction → List Emission
  | .child _ => []
  | .childOf _ => []
  | .logFault e => [⟨"err_msg", .text e.message⟩, ⟨"err_code", .int32 e.status⟩]
  | .log _ _ _ pairs => pairs.flatMap Pair.emissions

/-- What is to be observed of an action, given what the loggers from the one that
it names up to the root emit. -/
def LogAction.shown (above : List Emission) (action : LogAction) : Option Captured :=
  match action with
  | .child _ => none
  | .childOf _ => none
  | .logFault e =>
    some { severity := .error, message := e.canonical, tag := ""
           kept := ⟨action.own ++ above, none⟩ }
  | .log severity tag message _ =>
    some { severity, message, tag, kept := ⟨action.own ++ above, none⟩ }

/-- What is observed of an action begins with its own emissions. -/
theorem LogAction.emissions_of_shown {action : LogAction} {above : List Emission}
    {c : Captured} (h : c ∈ action.shown above) : c.kept.emissions = action.own ++ above := by
  cases action with
  | child pairs => exact nomatch h
  | childOf e => exact nomatch h
  | logFault e =>
      obtain rfl := Option.some.inj h
      rfl
  | log severity tag message pairs =>
      obtain rfl := Option.some.inj h
      rfl

namespace LogLibrary

variable {L : LogLibrary}

/-- What a capturing drain keeps of a record if it refuses nothing and asks for the least
severity. -/
def observed (L : LogLibrary) (r : Record L.Logger) : Captured where
  severity := r.severity
  message := r.message
  tag := r.tag
  kept := .of (L.serialize (L.keepExcept none) r)

/-- Every record is severe enough for the least severity. -/
theorem capture?_trace (r : Record L.Logger) : L.capture? .trace none r = some (L.observed r) := by
  have hrank : ¬ Severity.trace.rank < r.severity.rank := by
    cases r.severity <;> decide
  rw [capture?, if_neg hrank, observed]

theorem Lawful.observed_eq (hL : L.Lawful) {r : Record L.Logger} {offers : List Offer}
    (h : L.Offers r offers) :
    L.observed r =
      { severity := r.severity, message := r.message, tag := r.tag
        kept := ⟨offers.map Offer.emission, none⟩ } := by
  rw [observed, hL.kept_of_keepExcept_none h]

/-- **A step that names a logger shows the own pairs of its record, and then what
stands on the path of that logger.** -/
theorem Lawful.captured_of_isPath (hL : L.Lawful) {g : Genealogy} {loggers : List L.Logger}
    {step : LogStep} {along : List (List Emission)} (hg : g.Describes L loggers)
    (hpath : g.IsPath step.logger along) :
    L.captured loggers step = step.action.shown along.flatten := by
  have hlt : step.logger < loggers.length := hg.length ▸ hpath.lt_length
  have hlogger : loggers[step.logger]? = some loggers[step.logger] :=
    List.getElem?_eq_getElem hlt
  obtain ⟨others, above, hother, hmade, hemits⟩ := hg.path _ _ hlogger
  obtain rfl := hpath.unique hother
  have hcapture (r : Record L.Logger) (hr : r.logger = loggers[step.logger]) :
      L.capture? .trace none r =
        some { severity := r.severity, message := r.message, tag := r.tag
               kept := ⟨r.pairs.flatMap Pair.emissions ++ along.flatten, none⟩ } := by
    have hoffers : L.Offers r ((r.pairs ++ above).flatMap Pair.offers) :=
      ⟨above, hr ▸ hmade, rfl⟩
    rw [capture?_trace, hL.observed_eq hoffers, Pair.map_offers, List.flatMap_append, hemits]
  rw [captured, L.logged?_of_some hlogger]
  cases step.action with
  | child pairs => rfl
  | childOf e => rfl
  | logFault e =>
      show L.capture? .trace none (L.logFault loggers[step.logger] e) = _
      rw [logFault, hL.errorRecord_eq, hcapture _ rfl]
      rfl
  | log severity tag message pairs =>
      show L.capture? .trace none { severity, tag, message, pairs, logger := _ } = _
      rw [hcapture _ rfl]
      rfl

end LogLibrary

section Observed

variable (L : LogLibrary)

/-- What holds of a step that names a logger on whose path these emissions stand. -/
structure ObservedAlong (root : List Pair) (before : List LogStep) (step : LogStep)
    (after : List LogStep) (along : List (List Emission)) : Prop where
  /-- They stand on the path of the logger, as the steps before tell it. -/
  isPath : (Genealogy.of root before).IsPath step.logger along
  unique : ∀ others, (Genealogy.of root before).IsPath step.logger others → others = along
  /-- The record emits its own pairs and then those of the path. -/
  shown : (L.captures .trace none [L.root root] (before ++ step :: after))[before.length]? =
    some (step.action.shown along.flatten)
  /-- It emits the same when it is logged later. -/
  lasting : ∀ later,
    (L.captures .trace none [L.root root] (before ++ later ++ [step])).getLast? =
      some (step.action.shown along.flatten)
  /-- What it emits first under a key comes from the nearest that has the key. -/
  nearest : ∀ c ∈ step.action.shown along.flatten, ∀ key : String,
    c.kept.emissions.find? (·.key = key) =
      (step.action.own :: along).findSome? (·.find? (·.key = key))
  /-- A logged fault comes before all faults on the path. -/
  ofFault : ∀ e, step.action = .logFault e → ∃ c ∈ step.action.shown along.flatten,
    c.kept.emissions.find? (·.key = "err_code") = some ⟨"err_code", .int32 e.status⟩ ∧
      c.kept.emissions.find? (·.key = "err_msg") = some ⟨"err_msg", .text e.message⟩

/-- What holds of a step that names a logger which does not exist. -/
structure PassedOver (root : List Pair) (before : List LogStep) (step : LogStep)
    (after : List LogStep) : Prop where
  /-- It is answered by the number. -/
  answer : (L.runAll [L.root root] (before ++ step :: after))[before.length]? =
    some (.error step.logger)
  /-- The loggers stay the same. -/
  same : L.grown [L.root root] (before ++ [step]) = L.grown [L.root root] before
  /-- There is no record, and everything else is observed as if the step were not there. -/
  captures : L.captures .trace none [L.root root] (before ++ step :: after) =
    L.captures .trace none [L.root root] before ++
      none :: (L.captures .trace none [L.root root] (before ++ after)).drop before.length

variable {L}

theorem observedAlong_of_isPath (hL : L.Lawful) {root : List Pair} {before : List LogStep}
    {step : LogStep} {along : List (List Emission)} (after : List LogStep)
    (hpath : (Genealogy.of root before).IsPath step.logger along) :
    ObservedAlong L root before step after along where
  isPath := hpath
  unique others hothers := hothers.unique hpath
  shown := by
    rw [LogLibrary.getElem?_captures, List.getElem?_append_right (Nat.le_refl _), Nat.sub_self,
      List.take_left, List.getElem?_cons_zero, Option.map_some,
      hL.captured_of_isPath (Genealogy.describes_grown L root before) hpath]
  lasting later := by
    have hdescribes := Genealogy.describes_grown L root (before ++ later)
    rw [LogLibrary.captures_append, LogLibrary.captures_cons,
      hL.captured_of_isPath hdescribes (hpath.later later)]
    exact List.getLast?_concat
  nearest c hc key := by
    rw [LogAction.emissions_of_shown hc, List.find?_append, List.findSome?_cons]
    rw [← List.flatMap_id, List.find?_flatMap]
    cases step.action.own.find? (·.key = key) <;> rfl
  ofFault e he := by
    rw [he]
    exact ⟨_, rfl, rfl, rfl⟩

theorem passedOver_of_missing {root : List Pair} {before : List LogStep} {step : LogStep}
    (after : List LogStep) (h : (L.grown [L.root root] before).length ≤ step.logger) :
    PassedOver L root before step after := by
  obtain ⟨hrun, hcaptured, hnext⟩ := LogLibrary.run_of_missing h
  have hlength := LogLibrary.length_runAll [L.root root] before
  refine ⟨?_, ?_, ?_⟩
  · rw [LogLibrary.runAll_append, List.getElem?_append_right (Nat.le_of_eq hlength), hlength,
      Nat.sub_self, LogLibrary.runAll, hrun]
    rfl
  · rw [LogLibrary.grown_append]
    exact hnext
  · rw [LogLibrary.captures_append, LogLibrary.captures_cons, hcaptured, hnext,
      LogLibrary.captures_append, List.drop_left' (LogLibrary.length_captures _ _)]

/-- **Emissions follow the path to the root**, whatever the history of the tree and
whichever lawful library keeps it.
At each step of each history, a record emits its own pairs, then those of the
logger that the step names, then those of its parent and so on up to the root,
each in the order given, as the genealogy of the steps before tells it.  Nothing
that happens later changes what that logger emits.  What is emitted
first under a key comes from the nearest that has it, so that a logged fault
shows its own status and message before any other.  A step that names no logger
yields no record, and the history goes on as if it were not there. -/
theorem emissions_follow_path_to_root (hL : L.Lawful) (root : List Pair) (before : List LogStep)
    (step : LogStep) (after : List LogStep) :
    if step.logger < (L.grown [L.root root] before).length then
      ∃ along, ObservedAlong L root before step after along
    else PassedOver L root before step after := by
  have hdescribes := Genealogy.describes_grown L root before
  split
  case isTrue hlt =>
      obtain ⟨along, -, hpath, -⟩ := hdescribes.path _ _ (List.getElem?_eq_getElem hlt)
      exact ⟨along, observedAlong_of_isPath hL after hpath⟩
  case isFalse hge => exact passedOver_of_missing after (Nat.not_lt.mp hge)

end Observed

/-- Below a logger that carries a fault and one whose pairs hold faults as values, a fault
is logged: its own pairs stand in front, those of the nearer logger behind them with the
canonical texts under the keys they were given, and all keys occur again further up. -/
theorem emissions_below_faults :
    let root : List Pair := [.keyed "err_code" (.int64 0)]
    let before : List LogStep := [⟨0, .childOf ⟨7, "down"⟩⟩,
      ⟨1, .child [.keyed "cause" (.fault ⟨5, "late"⟩), .keyed "err_msg" (.failure ⟨-6, ""⟩)]⟩]
    let step : LogStep := ⟨2, .logFault ⟨1, "m"⟩⟩
    (LogLibrary.linked.captures .trace none [.root root] (before ++ [step]))[2]? =
      some (some
        { severity := .error, message := "errCode: 1, errMsg: m", tag := ""
          kept := ⟨[⟨"err_msg", .text "m"⟩, ⟨"err_code", .int32 1⟩,
            ⟨"cause", .rendered "errCode: 5, errMsg: late"⟩,
            ⟨"err_msg", .rendered "errCode: -6, errMsg: "⟩,
            ⟨"err_code", .int32 7⟩, ⟨"err_msg", .text "down"⟩,
            ⟨"err_code", .int64 0⟩], none⟩ }) := by
  intro root before step
  have hobserved := emissions_follow_path_to_root LogLibrary.linked_lawful root before step []
  rw [if_pos (by decide)] at hobserved
  obtain ⟨along, halong⟩ := hobserved
  have hpath : (Genealogy.of root before).IsPath 2
      [[⟨"cause", .rendered "errCode: 5, errMsg: late"⟩,
          ⟨"err_msg", .rendered "errCode: -6, errMsg: "⟩],
        [⟨"err_code", .int32 7⟩, ⟨"err_msg", .text "down"⟩], [⟨"err_code", .int64 0⟩]] :=
    .up (j := 1) (by decide) (.up (j := 0) (by decide) (.root (by decide)))
  have hshown := halong.shown
  rw [← halong.unique _ hpath] at hshown
  exact hshown.trans (by decide)

end Faults
