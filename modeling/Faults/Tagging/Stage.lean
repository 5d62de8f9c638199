import Faults.Abort
import Faults.Tagging.Failure

/-!
# Giving failures a status

A *stage* turns the failure of a result into a fault with the status of the
stage, and lets a success pass.  A strict stage takes the failure's text for
readers as the message; a lazy stage words the message itself.

Stages are put in a row: the first one meets the failure of the operation, each
later one the fault of the stage before it.  `Stage.runAll` records every text
that was asked for on the way (`Event`), next to the result after each stage.
A failure may refuse to be displayed; then there is no message, and the whole row
ends in an `Abort`.  A fault can always be displayed.
-/

namespace Faults

/-- The text of a failure for readers, or an abort where displaying it fails. -/
def Describable.displayed {ε : Type} [Describable ε] (failure : ε) : Except Abort String :=
  match Describable.display? failure with
  | some text => .ok text
  | none => .error .displayFailed

/-- The text of a failure for readers in the middle of a message, or an abort
where displaying it fails. -/
def Describable.inserted {ε : Type} [Describable ε] (failure : ε) : Except Abort String :=
  match Describable.display? failure with
  | some text => .ok text
  | none => .error .insertionFailed

/-- One way of turning a failure into a fault. -/
inductive Stage (ε : Type) where
  /-- The message is the failure's text for readers. -/
  | strict (status : Int32)
  /-- The message is worded from the failure; the wording may abort. -/
  | lazily (status : Int32) (wording : ε → Except Abort String)

/-- A text that a stage asked for. -/
inductive Event (ε : Type) where
  /-- A failure was displayed by a strict stage. -/
  | displayed (failure : ε)
  /-- A failure was worded by a lazy stage. -/
  | worded (failure : ε)
  deriving DecidableEq, Repr

/-- The same event of a failure seen in a larger type. -/
def Event.map {ε φ : Type} (f : ε → φ) : Event ε → Event φ
  | displayed failure => displayed (f failure)
  | worded failure => worded (f failure)

/-- Whether a lazy stage asked. -/
def Event.isWorded {ε : Type} : Event ε → Bool
  | displayed _ => false
  | worded _ => true

/-- What a row of stages did. -/
structure Report (ε α : Type) where
  events : List (Event ε)
  results : Except Abort (List (Except Fault α))

namespace Stage

variable {ε α : Type} [Describable ε]

def status : Stage ε → Int32
  | strict status => status
  | lazily status _ => status

/-- Words a failure: what the stage asks of it, with the text or the abort that it gets. -/
def word : Stage ε → ε → Event ε × Except Abort String
  | strict _, failure => (.displayed failure, Describable.displayed failure)
  | lazily _ wording, failure => (.worded failure, wording failure)

/-- The text that a stage asks of a failure. -/
def event (stage : Stage ε) (failure : ε) : Event ε :=
  (stage.word failure).1

def message (stage : Stage ε) (failure : ε) : Except Abort String :=
  (stage.word failure).2

/-- Carries a stage out: what it asked for, with the result.  A success is let pass, and
nothing is asked of it. -/
def carryOut (stage : Stage ε) : Except ε α → List (Event ε) × Except Abort (Except Fault α)
  | .ok value => ([], .ok (.ok value))
  | .error failure =>
    let (event, message) := stage.word failure
    ([event], message.map fun message => .error ⟨stage.status, message⟩)

/-- The result after a stage. -/
def apply (stage : Stage ε) (result : Except ε α) : Except Abort (Except Fault α) :=
  (stage.carryOut result).2

def events (stage : Stage ε) (result : Except ε α) : List (Event ε) :=
  (stage.carryOut result).1

theorem apply_ok (stage : Stage ε) (value : α) :
    stage.apply (.ok value) = .ok (.ok value) :=
  rfl

theorem apply_error (stage : Stage ε) (failure : ε) :
    stage.apply (.error failure : Except ε α) =
      (stage.message failure).map fun message => .error ⟨stage.status, message⟩ :=
  rfl

/-- Stages in a row on a result that already has a status. -/
def runLater (stages : List (Stage Fault)) (result : Except Fault α) : Report Fault α :=
  match stages with
  | [] => ⟨[], .ok []⟩
  | stage :: stages =>
    let (asked, result) := stage.carryOut result
    match result with
    | .error abort => ⟨asked, .error abort⟩
    | .ok tagged =>
      let later := runLater stages tagged
      ⟨asked ++ later.events, later.results.map (tagged :: ·)⟩

theorem runLater_cons (stage : Stage Fault) (stages : List (Stage Fault))
    (result : Except Fault α) :
    runLater (stage :: stages) result =
      match stage.apply result with
      | .error abort => ⟨stage.events result, .error abort⟩
      | .ok tagged =>
        ⟨stage.events result ++ (runLater stages tagged).events,
          (runLater stages tagged).results.map (tagged :: ·)⟩ :=
  rfl

/-- A first stage on the result of an operation, and others behind it. -/
def runAll (first : Stage ε) (others : List (Stage Fault)) (result : Except ε α) :
    Report (ε ⊕ Fault) α :=
  let (asked, result) := first.carryOut result
  let asked := asked.map (Event.map Sum.inl)
  match result with
  | .error abort => ⟨asked, .error abort⟩
  | .ok tagged =>
    let later := runLater others tagged
    ⟨asked ++ later.events.map (Event.map Sum.inr), later.results.map (tagged :: ·)⟩

theorem runAll_eq (first : Stage ε) (others : List (Stage Fault)) (result : Except ε α) :
    runAll first others result =
      match first.apply result with
      | .error abort => ⟨(first.events result).map (Event.map Sum.inl), .error abort⟩
      | .ok tagged =>
        ⟨(first.events result).map (Event.map Sum.inl) ++
            (runLater others tagged).events.map (Event.map Sum.inr),
          (runLater others tagged).results.map (tagged :: ·)⟩ :=
  rfl

end Stage

/-- How often lazy stages worded the failure of the operation itself. -/
def Report.wordings {ε α : Type} (report : Report (ε ⊕ Fault) α) : Nat :=
  report.events.countP fun
    | .worded (.inl _) => true
    | _ => false

end Faults
