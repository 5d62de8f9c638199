import Faults.Tagging.Stage

/-!
# Wordings

The messages that a lazy stage may word for a failure: one of its texts, one of
them with a fixed text on one side, a measure of its text for readers, or a text
that does not depend on it.  A wording that needs the text for readers aborts
where displaying the failure fails: one that inserts the text into a message, even
into an empty one, and one that only measures it abort for different reasons.
-/

namespace Faults

inductive Wording where
  | display
  | inspect
  /-- The text that shows the structure, expanded. -/
  | expanded
  /-- A text, and behind it the text for readers. -/
  | introduce (text : String)
  /-- The text for readers, and behind it a text. -/
  | append (text : String)
  /-- A text, and behind it the text that shows the structure. -/
  | introduceInspect (text : String)
  | constant (text : String)
  | characters
  | bytes
  | empty
  deriving DecidableEq, Repr

namespace Wording

variable {ε : Type} [Describable ε]

def message (wording : Wording) (failure : ε) : Except Abort String :=
  match wording with
  | display => Describable.inserted failure
  | inspect => .ok (Describable.inspect false failure)
  | expanded => .ok (Describable.inspect true failure)
  | introduce text => (Describable.inserted failure).map (text ++ ·)
  | append text => (Describable.inserted failure).map (· ++ text)
  | introduceInspect text => .ok (text ++ Describable.inspect false failure)
  | constant text => .ok text
  | characters => (Describable.displayed failure).map fun s => toString s.length
  | bytes => (Describable.displayed failure).map fun s => toString (Utf8.encode s.toList).length
  | empty => .ok ""

/-- The lazy stage that words failures in this way. -/
def stage (wording : Wording) (status : Int32) : Stage ε :=
  .lazily status wording.message

/-- A fault has a message in every wording. -/
theorem exists_message_fault (wording : Wording) (e : Fault) :
    ∃ text, wording.message e = .ok text := by
  cases wording <;> exact ⟨_, rfl⟩

end Wording

end Faults
