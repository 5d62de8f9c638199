import Faults.Log.Linked
import Mathlib.Data.List.TakeWhile

/-!
# Serializing records

A record is serialized along its structure, pair by pair and logger by logger,
a spread fault field by field.  Seen from the sink there is no structure: the
record is a list of offers (`Pair.offers`, `LogLibrary.Offers`), handed over from left
to right, and what becomes of a refusal is a matter of that list alone.  This holds of
every lawful library for logging; the laws speak of one pair or one logger at a time, and
the whole list is put together here.

The sinks of this file are given by a step that makes a new state of each
offer or refuses it (`Sink.ofStep`).

* `LogLibrary.Lawful.serialize_eq_forM` — a record is the list of its offers;
* `run_forM_ofStep_ok_iff`, `run_forM_ofStep_error_iff` — how handing over ends:
  in the last state, or at the first offer that the step refuses;
* `run_forM_watched_of_error` — which offers the sink was made by then;
* `LogLibrary.drain_of_serve` — in a history, the next record is serialized from the
  state that was reached, however that ended;
* `LogLibrary.Lawful.kept_of_keepExcept_some`, `LogLibrary.Lawful.captures_refusing` — a
  sink that refuses a key keeps the emissions before the first of that key, in each
  record of a history alike;
* `serializing_stops_at_first_refusal` — all of it for every record.
-/

namespace Faults

variable {ε σ γ : Type}

/-! ## What a record offers -/

/-- What a sink is offered for a pair.  A fault as a value is its canonical text, under
the key that it is given; one that is wrapped is offered as a failure, under that key; and
one that is spread out is its status and its message. -/
def Pair.offers : Pair → List Offer
  | .keyed key (.text s) => [.value ⟨key, .text s⟩]
  | .keyed key (.int32 n) => [.value ⟨key, .int32 n⟩]
  | .keyed key (.int64 n) => [.value ⟨key, .int64 n⟩]
  | .keyed key (.truth b) => [.value ⟨key, .truth b⟩]
  | .keyed key (.character c) => [.value ⟨key, .character c⟩]
  | .keyed key .unit => [.value ⟨key, .unit⟩]
  | .keyed key (.optional (some n)) => [.value ⟨key, .int32 n⟩]
  | .keyed key (.optional none) => [.value ⟨key, .absent⟩]
  | .keyed key (.fault e) => [.value ⟨key, .rendered e.canonical⟩]
  | .keyed key (.failure e) => [.failure key e]
  | .spread e =>
    [.value ⟨"err_code", .int32 e.status⟩, .value ⟨"err_msg", .text e.message⟩]

/-- What a sink that has no way of its own for failures takes an offer for: a failure
under a key is its canonical text. -/
def Offer.emission : Offer → Emission
  | value emission => emission
  | failure key e => ⟨key, .rendered e.canonical⟩

namespace LogLibrary

/-- A logger was made as the root or below others, and these are the pairs of them all,
its own first, then those of its parent and so on up to the root. -/
inductive MadeOf (L : LogLibrary) : L.Logger → List Pair → Prop
  | root (pairs : List Pair) : MadeOf L (L.root pairs) pairs
  | child (pairs : List Pair) {parent : L.Logger} {above : List Pair}
      (h : MadeOf L parent above) : MadeOf L (L.child pairs parent) (pairs ++ above)

/-- What is offered for a record: what its own pairs offer, then what those of its logger
and of the loggers above do. -/
def Offers (L : LogLibrary) (r : Record L.Logger) (offers : List Offer) : Prop :=
  ∃ above, L.MadeOf r.logger above ∧ offers = (r.pairs ++ above).flatMap Pair.offers

variable {L : LogLibrary}

theorem Lawful.serializePair_eq_forM (hL : L.Lawful) (sink : Sink ε σ) (pair : Pair) :
    L.serializePair sink pair = forM pair.offers sink := by
  have hone (offer : Offer) : (forM [offer] sink : Refusable ε σ Unit) = sink offer := by
    show (do sink offer; pure ()) = sink offer
    simp
  cases pair with
  | keyed key value =>
      rw [serializePair]
      cases value with
      | text s => rw [hL.value_text, Pair.offers, hone]
      | int32 n => rw [hL.value_int32, Pair.offers, hone]
      | int64 n => rw [hL.value_int64, Pair.offers, hone]
      | truth b => rw [hL.value_truth, Pair.offers, hone]
      | character c => rw [hL.value_character, Pair.offers, hone]
      | unit => rw [hL.value_unit, Pair.offers, hone]
      | optional n =>
          cases n with
          | none => rw [hL.value_none, Pair.offers, hone]
          | some n => rw [hL.value_some, Pair.offers, hone]
      | fault e => rw [hL.value_fault, Pair.offers, hone, Fault.serializeValue]
      | failure e => rw [hL.value_failure, Pair.offers, hone]
  | spread e =>
      show (do sink (.value ⟨"err_code", .int32 e.status⟩)
               sink (.value ⟨"err_msg", .text e.message⟩)) =
        (do sink (.value ⟨"err_code", .int32 e.status⟩)
            sink (.value ⟨"err_msg", .text e.message⟩)
            pure ())
      simp

theorem Lawful.serializePairs_eq_forM (hL : L.Lawful) (sink : Sink ε σ) (pairs : List Pair) :
    L.serializePairs (L.serializePair sink) pairs = forM (pairs.flatMap Pair.offers) sink := by
  induction pairs with
  | nil =>
      rw [hL.pairs_nil]
      rfl
  | cons pair pairs ih =>
      rw [hL.pairs_cons, ih, hL.serializePair_eq_forM, List.flatMap_cons, List.forM_append]

/-- **A logger is the way to its root**: to serialize it is to hand over what the pairs
on that way offer. -/
theorem Lawful.serializeLogger_eq_forM (hL : L.Lawful) (sink : Sink ε σ) {logger : L.Logger}
    {above : List Pair} (h : L.MadeOf logger above) :
    L.serializeLogger (L.serializePair sink) logger =
      forM (above.flatMap Pair.offers) sink := by
  induction h with
  | root pairs => rw [hL.logger_root, hL.serializePairs_eq_forM]
  | child pairs h ih =>
      rw [hL.logger_child, ih, hL.serializePairs_eq_forM, List.flatMap_append,
        List.forM_append]

/-- **A record is the list of its offers.**  To serialize it is to hand these
over from left to right. -/
theorem Lawful.serialize_eq_forM (hL : L.Lawful) (sink : Sink ε σ) {r : Record L.Logger}
    {offers : List Offer} (h : L.Offers r offers) : L.serialize sink r = forM offers sink := by
  obtain ⟨above, hmade, rfl⟩ := h
  rw [serialize, hL.record_eq, hL.serializePairs_eq_forM,
    hL.serializeLogger_eq_forM sink hmade, List.flatMap_append, List.forM_append]

end LogLibrary

/-! ## Handing over -/

section HandingOver

variable {take : γ → Refusable ε σ Unit} {s s' s'' : σ} {refusal : ε}
variable {x : γ} {xs before : List γ}

theorem run_forM_cons_of_ok (h : (take x).run s = .ok () s') :
    (forM (x :: xs) take).run s = (forM xs take).run s' := by
  have hstep : take x s = .ok () s' := h
  rw [List.forM_cons]
  simp only [EStateM.run, bind, EStateM.bind, hstep]

theorem run_forM_cons_of_error (h : (take x).run s = .error refusal s') :
    (forM (x :: xs) take).run s = .error refusal s' := by
  have hstep : take x s = .error refusal s' := h
  rw [List.forM_cons]
  simp only [EStateM.run, bind, EStateM.bind, hstep]

/-- What was taken is behind; the rest goes on from there. -/
theorem run_forM_append_of_ok (h : (forM before take).run s = .ok () s') :
    (forM (before ++ xs) take).run s = (forM xs take).run s' := by
  have hstep : forM before take s = .ok () s' := h
  rw [List.forM_append]
  simp only [EStateM.run, bind, EStateM.bind, hstep]

/-- **A refusal ends the handing over where it happens.**  It comes from one of
what is handed over; what stands before was taken, and what stands behind is of no
account. -/
theorem run_forM_error_iff :
    (forM xs take).run s = .error refusal s'' ↔
      ∃ before x after s', xs = before ++ x :: after ∧
        (forM before take).run s = .ok () s' ∧
        (take x).run s' = .error refusal s'' := by
  constructor
  · intro h
    induction xs generalizing s with
    | nil => exact nomatch h
    | cons first rest ih =>
        cases hfirst : (take first).run s with
        | ok _ next =>
            rw [run_forM_cons_of_ok hfirst] at h
            obtain ⟨before, x, after, s', rfl, htaken, hrefused⟩ := ih h
            refine ⟨first :: before, x, after, s', rfl, ?_, hrefused⟩
            rw [run_forM_cons_of_ok hfirst]
            exact htaken
        | error other next =>
            rw [run_forM_cons_of_error hfirst] at h
            exact ⟨[], first, rest, s, rfl, rfl, hfirst.trans h⟩
  · rintro ⟨before, x, after, s', rfl, htaken, hrefused⟩
    rw [run_forM_append_of_ok htaken]
    exact run_forM_cons_of_error hrefused

end HandingOver

/-! ## Sinks that are given by a step -/

/-- The sink that takes offers by a step.  A refusal leaves the state alone. -/
def Sink.ofStep (emit : σ → Offer → Except ε σ) : Sink ε σ :=
  fun offer s =>
    match emit s offer with
    | .ok s' => .ok () s'
    | .error refusal => .error refusal s

/-- A sink that also notes each offer that it is made, whether or not it takes it. -/
def Sink.watched (sink : Sink ε σ) : Sink ε (σ × List Offer) :=
  fun offer state =>
    match sink offer state.1 with
    | .ok _ s' => .ok () (s', state.2 ++ [offer])
    | .error refusal s' => .error refusal (s', state.2 ++ [offer])

section Steps

variable {emit : σ → Offer → Except ε σ} {s s' : σ} {refusal : ε}
variable {offer : Offer} {offers : List Offer}

theorem run_ofStep_ok_iff :
    (Sink.ofStep emit offer).run s = .ok () s' ↔ emit s offer = .ok s' := by
  simp only [EStateM.run, Sink.ofStep]
  cases emit s offer <;> simp

theorem run_ofStep_error_iff {s'' : σ} :
    (Sink.ofStep emit offer).run s' = .error refusal s'' ↔
      emit s' offer = .error refusal ∧ s' = s'' := by
  simp only [EStateM.run, Sink.ofStep]
  cases emit s' offer <;> simp

/-- Handing over goes well exactly when the step takes every offer. -/
theorem run_forM_ofStep_ok_iff :
    (forM offers (Sink.ofStep emit)).run s = .ok () s' ↔ offers.foldlM emit s = .ok s' := by
  induction offers generalizing s with
  | nil =>
      rw [List.forM_nil, List.foldlM_nil]
      simp [EStateM.run, pure, EStateM.pure, Except.pure]
  | cons first rest ih =>
      rw [List.foldlM_cons]
      cases hfirst : emit s first with
      | ok next =>
          rw [run_forM_cons_of_ok (run_ofStep_ok_iff.mpr hfirst)]
          exact ih
      | error refusal =>
          rw [run_forM_cons_of_error (run_ofStep_error_iff.mpr ⟨hfirst, rfl⟩)]
          simp [bind, Except.bind]

/-- A refusal comes from the first offer that the step refuses; the state is
the one to which the offers before it led. -/
theorem run_forM_ofStep_error_iff :
    (forM offers (Sink.ofStep emit)).run s = .error refusal s' ↔
      ∃ before offer after, offers = before ++ offer :: after ∧
        before.foldlM emit s = .ok s' ∧ emit s' offer = .error refusal := by
  rw [run_forM_error_iff]
  constructor
  · rintro ⟨before, offer, after, reached, heq, htaken, hrefused⟩
    obtain ⟨hstep, rfl⟩ := run_ofStep_error_iff.mp hrefused
    exact ⟨before, offer, after, heq, run_forM_ofStep_ok_iff.mp htaken, hstep⟩
  · rintro ⟨before, offer, after, heq, htaken, hrefused⟩
    exact ⟨before, offer, after, s', heq, run_forM_ofStep_ok_iff.mpr htaken,
      run_ofStep_error_iff.mpr ⟨hrefused, rfl⟩⟩

end Steps

/-- A watched sink that takes offers has noted each of them. -/
theorem run_forM_watched_of_ok {sink : Sink ε σ} {s s' : σ} {seen offers : List Offer}
    (h : (forM offers sink).run s = .ok () s') :
    (forM offers sink.watched).run (s, seen) = .ok () (s', seen ++ offers) := by
  induction offers generalizing s seen with
  | nil =>
      obtain rfl : s = s' := (EStateM.Result.ok.inj h).2
      rw [List.append_nil]
      rfl
  | cons first rest ih =>
      cases hfirst : (sink first).run s with
      | ok _ next =>
          rw [run_forM_cons_of_ok hfirst] at h
          have hnoted : (sink.watched first).run (s, seen) = .ok () (next, seen ++ [first]) := by
            have hstep : sink first s = .ok () next := hfirst
            simp only [EStateM.run, Sink.watched, hstep]
          rw [run_forM_cons_of_ok hnoted, ih h, List.append_assoc]
          rfl
      | error refusal next =>
          rw [run_forM_cons_of_error hfirst] at h
          exact nomatch h

/-- A watched sink that refuses an offer has noted those before it, the
refused one, and nothing more. -/
theorem run_forM_watched_of_error {sink : Sink ε σ} {s s' s'' : σ} {refusal : ε}
    {before after : List Offer} {offer : Offer}
    (htaken : (forM before sink).run s = .ok () s')
    (hrefused : (sink offer).run s' = .error refusal s'') :
    (forM (before ++ offer :: after) sink.watched).run (s, []) =
      .error refusal (s'', before ++ [offer]) := by
  rw [run_forM_append_of_ok (run_forM_watched_of_ok htaken)]
  apply run_forM_cons_of_error
  have hstep : sink offer s' = .error refusal s'' := hrefused
  simp only [EStateM.run, Sink.watched, hstep, List.nil_append]

/-! ## Histories -/

namespace LogLibrary

section Histories

variable {L : LogLibrary} {loggers : List L.Logger} {step : LogStep} {r : Record L.Logger}

theorem grown_append (loggers : List L.Logger) (before after : List LogStep) :
    L.grown loggers (before ++ after) = L.grown (L.grown loggers before) after :=
  List.foldl_append

/-- A record is logged through the logger that its step names. -/
theorem Lawful.logger_of_logged? (hL : L.Lawful) (h : L.logged? loggers step = some r) :
    loggers[step.logger]? = some r.logger := by
  cases hlogger : loggers[step.logger]? with
  | none =>
      rw [L.logged?_of_none hlogger] at h
      cases h
  | some logger =>
      rw [L.logged?_of_some hlogger] at h
      cases haction : step.action with
      | child pairs =>
          rw [haction] at h
          cases h
      | childOf e =>
          rw [haction] at h
          cases h
      | logFault e =>
          rw [haction] at h
          obtain rfl : L.logFault logger e = r := Option.some.inj h
          rw [logFault, hL.errorRecord_eq]
      | log severity tag message pairs =>
          rw [haction] at h
          obtain rfl := Option.some.inj h
          rfl

/-- Each of these loggers was made as the root or below others. -/
def AllMade (L : LogLibrary) (loggers : List L.Logger) : Prop :=
  ∀ logger ∈ loggers, ∃ above, L.MadeOf logger above

theorem AllMade.next (h : L.AllMade loggers) (step : LogStep) :
    L.AllMade (L.next loggers step) := by
  have hchild {parent : L.Logger} (hparent : parent ∈ loggers) (pairs : List Pair) :
      L.AllMade (loggers ++ [L.child pairs parent]) := by
    intro logger hmem
    rcases List.mem_append.mp hmem with hold | hnew
    · exact h logger hold
    · rw [List.mem_singleton.mp hnew]
      obtain ⟨above, hmade⟩ := h parent hparent
      exact ⟨_, .child pairs hmade⟩
  cases hlogger : loggers[step.logger]? with
  | none =>
      rw [L.next_of_none hlogger]
      exact h
  | some logger =>
      have hmem := List.mem_of_getElem? hlogger
      rw [L.next_of_some hlogger]
      cases step.action with
      | child pairs => exact hchild hmem pairs
      | childOf e => exact hchild hmem [.spread e]
      | logFault e => exact h
      | log severity tag message pairs => exact h

theorem AllMade.grown (h : L.AllMade loggers) (steps : List LogStep) :
    L.AllMade (L.grown loggers steps) := by
  induction steps generalizing loggers with
  | nil => exact h
  | cons step steps ih => exact ih (h.next step)

theorem allMade_root (pairs : List Pair) : L.AllMade [L.root pairs] := by
  intro logger hmem
  rw [List.mem_singleton.mp hmem]
  exact ⟨pairs, .root pairs⟩

/-- Whatever is logged offers something definite. -/
theorem Lawful.exists_offers (hL : L.Lawful) (hmade : L.AllMade loggers)
    (h : L.logged? loggers step = some r) : ∃ offers, L.Offers r offers := by
  obtain ⟨above, habove⟩ := hmade r.logger (List.mem_of_getElem? (hL.logger_of_logged? h))
  exact ⟨_, above, habove, rfl⟩

variable {sink : Sink ε σ} {s s' : σ} {refusal : ε} {before : List LogStep}

/-- A drain takes up where it was at the end of the history before. -/
theorem drain_append (loggers : List L.Logger) (s : σ) (before after : List LogStep) :
    L.drain sink loggers s (before ++ after) =
      ((L.drain sink loggers s before).1 ++
        (L.drain sink (L.grown loggers before) (L.drain sink loggers s before).2 after).1,
      (L.drain sink (L.grown loggers before) (L.drain sink loggers s before).2 after).2) := by
  induction before generalizing loggers s with
  | nil => rfl
  | cons step before ih =>
      rw [List.cons_append, drain_cons, ih]
      rfl

/-- **A refusal is over with its record.**  However a record ended, the drain notes it,
and serializes the next record from the state that was reached. -/
theorem drain_of_serve {ending : Option (Except ε Unit)} (after : List LogStep)
    (hserve : L.serve sink (L.grown loggers before) (L.drain sink loggers s before).2 step =
      (ending, s')) :
    L.drain sink loggers s (before ++ step :: after) =
      ((L.drain sink loggers s before).1 ++
        ending :: (L.drain sink (L.grown loggers (before ++ [step])) s' after).1,
      (L.drain sink (L.grown loggers (before ++ [step])) s' after).2) := by
  rw [drain_append, drain_cons, hserve, grown_append]
  rfl

end Histories

end LogLibrary

/-! ## A sink that refuses a key -/

/-- The longest beginning of a list of emissions in which a key does not occur. -/
structure IsLongestWithout (key : String) (whole kept : List Emission) : Prop where
  begins : kept <+: whole
  free : ∀ emission ∈ kept, emission.key ≠ key
  longest : ∀ other, other <+: whole → (∀ emission ∈ other, emission.key ≠ key) →
    other <+: kept

/-- The emissions before the first one of a key. -/
def emissionsBefore (key : String) (emissions : List Emission) : List Emission :=
  emissions.takeWhile (·.key ≠ key)

theorem isLongestWithout_emissionsBefore (key : String) (emissions : List Emission) :
    IsLongestWithout key emissions (emissionsBefore key emissions) where
  begins := List.takeWhile_prefix _
  free emission hmem := by
    have htest := List.mem_takeWhile_imp hmem
    simpa using htest
  longest other hbegins hfree := by
    obtain ⟨rest, rfl⟩ := hbegins
    have htest : ∀ emission ∈ other, decide (emission.key ≠ key) = true := by
      intro emission hmem
      simpa using hfree emission hmem
    rw [emissionsBefore, List.takeWhile_append_of_pos htest]
    exact List.prefix_append _ _

variable {key : String} {refusal : Refusal}

theorem run_forM_keepEmission_none (kept emissions : List Emission) :
    (forM emissions (keepEmission none)).run kept = .ok () (kept ++ emissions) := by
  induction emissions generalizing kept with
  | nil =>
      rw [List.append_nil]
      rfl
  | cons first rest ih =>
      have hfirst : (keepEmission none first).run kept = .ok () (kept ++ [first]) := rfl
      rw [run_forM_cons_of_ok hfirst, ih, List.append_assoc]
      rfl

theorem run_forM_keepEmission_some (kept emissions : List Emission) :
    (forM emissions (keepEmission (some (key, refusal)))).run kept =
      if ∃ emission ∈ emissions, emission.key = key then
        .error refusal (kept ++ emissionsBefore key emissions)
      else .ok () (kept ++ emissionsBefore key emissions) := by
  induction emissions generalizing kept with
  | nil => simp [emissionsBefore, EStateM.run, pure, EStateM.pure]
  | cons first rest ih =>
      by_cases hkey : first.key = key
      · have hfirst : (keepEmission (some (key, refusal)) first).run kept =
            .error refusal kept := by
          simp only [keepEmission, if_pos hkey]
          rfl
        rw [run_forM_cons_of_error hfirst, if_pos ⟨first, List.mem_cons_self, hkey⟩]
        simp [emissionsBefore, hkey]
      · have hfirst : (keepEmission (some (key, refusal)) first).run kept =
            .ok () (kept ++ [first]) := by
          simp only [keepEmission, if_neg hkey]
          rfl
        have hoccurs : (∃ emission ∈ first :: rest, emission.key = key) ↔
            ∃ emission ∈ rest, emission.key = key := by
          simp [hkey]
        have hbefore : emissionsBefore key (first :: rest) =
            first :: emissionsBefore key rest := by
          simp [emissionsBefore, hkey]
        rw [run_forM_cons_of_ok hfirst, ih, hbefore]
        simp only [hoccurs, List.append_assoc, List.singleton_append]

/-- What is left of a captured record when a key is refused. -/
def Captured.refusing (key : String) (refusal : Refusal) (c : Captured) : Captured :=
  { c with kept :=
    ⟨emissionsBefore key c.kept.emissions,
      if ∃ emission ∈ c.kept.emissions, emission.key = key then some refusal else none⟩ }

namespace LogLibrary

variable {L : LogLibrary}

/-- A sink without a way of its own for failures is handed emissions. -/
theorem Lawful.forM_plainly (hL : L.Lawful) (take : Emission → Refusable ε σ Unit)
    (offers : List Offer) :
    forM offers (L.plainly take) = forM (offers.map Offer.emission) take := by
  induction offers with
  | nil => rfl
  | cons first rest ih =>
      have hfirst : L.plainly take first = take first.emission := by
        cases first with
        | value emission => rfl
        | failure key e => rw [plainly, hL.describe_nil, Offer.emission]
      rw [List.forM_cons, ih, hfirst, List.map_cons, List.forM_cons]

variable {r : Record L.Logger} {offers : List Offer}

/-- A sink that refuses nothing keeps every emission. -/
theorem Lawful.kept_of_keepExcept_none (hL : L.Lawful) (h : L.Offers r offers) :
    Kept.of (L.serialize (L.keepExcept none) r) = ⟨offers.map Offer.emission, none⟩ := by
  rw [Kept.of, hL.serialize_eq_forM _ h, keepExcept, hL.forM_plainly,
    run_forM_keepEmission_none]
  rfl

/-- A sink that refuses a key keeps the emissions before the first one of that
key, and refuses the record exactly if there is one. -/
theorem Lawful.kept_of_keepExcept_some (hL : L.Lawful) (h : L.Offers r offers) :
    Kept.of (L.serialize (L.keepExcept (some (key, refusal))) r) =
      ⟨emissionsBefore key (offers.map Offer.emission),
        if ∃ emission ∈ offers.map Offer.emission, emission.key = key then some refusal
          else none⟩ := by
  rw [Kept.of, hL.serialize_eq_forM _ h, keepExcept, hL.forM_plainly,
    run_forM_keepEmission_some, List.nil_append]
  by_cases hkey : ∃ emission ∈ offers.map Offer.emission, emission.key = key
  · simp only [if_pos hkey]
  · simp only [if_neg hkey]

theorem Lawful.capture?_refusing (hL : L.Lawful) (least : Severity) (h : L.Offers r offers) :
    L.capture? least (some (key, refusal)) r =
      (L.capture? least none r).map (Captured.refusing key refusal) := by
  unfold capture?
  split
  · rfl
  · rw [hL.kept_of_keepExcept_some h, hL.kept_of_keepExcept_none h]
    rfl

/-- **Refusals do not add up.**  In every history, a drain whose sink refuses a
key keeps of each record what it would keep of that record alone. -/
theorem Lawful.captures_refusing (hL : L.Lawful) (least : Severity) {loggers : List L.Logger}
    (hmade : L.AllMade loggers) (steps : List LogStep) :
    L.captures least (some (key, refusal)) loggers steps =
      (L.captures least none loggers steps).map
        (Option.map (Captured.refusing key refusal)) := by
  induction steps generalizing loggers with
  | nil => rfl
  | cons step steps ih =>
      have hfirst : (L.logged? loggers step).bind (L.capture? least (some (key, refusal))) =
          ((L.logged? loggers step).bind (L.capture? least none)).map
            (Captured.refusing key refusal) := by
        cases hlogged : L.logged? loggers step with
        | none => rfl
        | some r =>
            obtain ⟨offers, hoffers⟩ := hL.exists_offers hmade hlogged
            exact hL.capture?_refusing least hoffers
      rw [captures, captures, ih (hmade.next step), hfirst, List.map_cons]

end LogLibrary

/-- **Serializing stops at the first refusal**, wherever in a record it happens, with
every lawful library for logging.  A record is serialized by running the step of the sink
over its offers from left to right.  It goes well exactly when the step takes them all.
Otherwise there is a first offer that the step refuses: its refusal is the result, the
state is that on the offers before it, and nothing behind it was so much as offered.

In a history, every record that is logged has its offers.  Whether they are all taken or
one of them is refused, the drain notes how it ended and goes on in the same way: the next
record is serialized from the state that was reached.

A sink that refuses a key therefore keeps the longest beginning without
the key, and refuses the record exactly if the key occurs; in a history it does
so for each record alike. -/
theorem serializing_stops_at_first_refusal {L : LogLibrary} (hL : L.Lawful) :
    (∀ (ε σ : Type) (emit : σ → Offer → Except ε σ) (s : σ) (r : Record L.Logger)
      (offers : List Offer), L.Offers r offers →
      (∀ s', (L.serialize (.ofStep emit) r).run s = .ok () s' ↔
        offers.foldlM emit s = .ok s') ∧
      (∀ refusal s', (L.serialize (.ofStep emit) r).run s = .error refusal s' ↔
        ∃ before offer after, offers = before ++ offer :: after ∧
          before.foldlM emit s = .ok s' ∧ emit s' offer = .error refusal ∧
          (L.serialize (Sink.ofStep emit).watched r).run (s, []) =
            .error refusal (s', before ++ [offer]))) ∧
    (∀ (ε σ : Type) (sink : Sink ε σ) (s : σ) (root : List Pair) (before : List LogStep)
      (step : LogStep) (r : Record L.Logger),
      L.logged? (L.grown [L.root root] before) step = some r →
      (∃ offers, L.Offers r offers) ∧
      let endings := (L.drain sink [L.root root] s before).1
      let reached := (L.drain sink [L.root root] s before).2
      let rest (s' : σ) (after : List LogStep) :=
        L.drain sink (L.grown [L.root root] (before ++ [step])) s' after
      (∀ s', (L.serialize sink r).run reached = .ok () s' →
        ∀ after, L.drain sink [L.root root] s (before ++ step :: after) =
          (endings ++ some (.ok ()) :: (rest s' after).1, (rest s' after).2)) ∧
      (∀ refusal s', (L.serialize sink r).run reached = .error refusal s' →
        ∀ after, L.drain sink [L.root root] s (before ++ step :: after) =
          (endings ++ some (.error refusal) :: (rest s' after).1, (rest s' after).2))) ∧
    (∀ (key : String) (refusal : Refusal) (r : Record L.Logger) (offers : List Offer),
      L.Offers r offers →
      let emissions := offers.map Offer.emission
      let kept := Kept.of (L.serialize (L.keepExcept (some (key, refusal))) r)
      IsLongestWithout key emissions kept.emissions ∧
        kept.refusal = if ∃ emission ∈ emissions, emission.key = key then some refusal
          else none) ∧
    (∀ (key : String) (refusal : Refusal) (least : Severity) (root : List Pair)
      (steps : List LogStep),
      L.captures least (some (key, refusal)) [L.root root] steps =
        (L.captures least none [L.root root] steps).map
          (Option.map (Captured.refusing key refusal))) := by
  refine ⟨?_, ?_, ?_, ?_⟩
  · intro ε σ emit s r offers hoffers
    have hserialize {σ : Type} (sink : Sink ε σ) : L.serialize sink r = forM offers sink :=
      hL.serialize_eq_forM sink hoffers
    refine ⟨fun s' => ?_, fun refusal s' => ?_⟩
    · rw [hserialize]
      exact run_forM_ofStep_ok_iff
    · rw [hserialize, hserialize, run_forM_ofStep_error_iff]
      constructor
      · rintro ⟨before, offer, after, rfl, htaken, hrefused⟩
        refine ⟨before, offer, after, rfl, htaken, hrefused, ?_⟩
        exact run_forM_watched_of_error (run_forM_ofStep_ok_iff.mpr htaken)
          (run_ofStep_error_iff.mpr ⟨hrefused, rfl⟩)
      · rintro ⟨before, offer, after, heq, htaken, hrefused, -⟩
        exact ⟨before, offer, after, heq, htaken, hrefused⟩
  · intro ε σ sink s root before step r hlogged
    have hmade : L.AllMade (L.grown [L.root root] before) := (L.allMade_root root).grown before
    refine ⟨hL.exists_offers hmade hlogged, ?_, ?_⟩
    · intro s' htaken after
      apply L.drain_of_serve after
      simp only [LogLibrary.serve, hlogged, htaken]
    · intro refusal s' hrefused after
      apply L.drain_of_serve after
      simp only [LogLibrary.serve, hlogged, hrefused]
  · intro key refusal r offers hoffers emissions kept
    have hkept : kept = _ := hL.kept_of_keepExcept_some hoffers
    rw [hkept]
    exact ⟨isLongestWithout_emissionsBefore key emissions, rfl⟩
  · intro key refusal least root steps
    exact hL.captures_refusing least (L.allMade_root root) steps

/-- A sink that refuses failures: the record that holds one is refused between a spread
fault and the pairs of the root, and the fault that is logged next is whole. -/
theorem refused_failure_leaves_next_record_whole :
    let emit (keys : List String) : Offer → Except String (List String)
      | .value emission => .ok (keys ++ [emission.key])
      | .failure key _ => .error key
    let steps : List LogStep :=
      [⟨0, .log .info "" "" [.spread ⟨7, "down"⟩, .keyed "cause" (.failure ⟨5, "late"⟩)]⟩,
        ⟨0, .logFault ⟨1, "m"⟩⟩]
    LogLibrary.linked.drain (.ofStep emit) [.root [.keyed "app" (.truth true)]] [] steps =
      ([some (.error "cause"), some (.ok ())],
        ["err_code", "err_msg", "err_msg", "err_code", "app"]) := by
  intro emit steps
  have hhistory := (serializing_stops_at_first_refusal LogLibrary.linked_lawful).2.1 String
    (List String) (.ofStep emit) [] [.keyed "app" (.truth true)] []
    ⟨0, .log .info "" "" [.spread ⟨7, "down"⟩, .keyed "cause" (.failure ⟨5, "late"⟩)]⟩ _ rfl
  have hrefused := hhistory.2.2 "cause" ["err_code", "err_msg"] rfl [⟨0, .logFault ⟨1, "m"⟩⟩]
  exact hrefused.trans rfl

end Faults
