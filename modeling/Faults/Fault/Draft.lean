import Faults.Abort
import Faults.Format.Template.Fill
import Faults.Text.Hidden

/-!
# Drafts of faults

A fault is made from a status alone, from a status with a message that is kept
as it is, or from a status with a template whose arguments may themselves be
drafts of faults.  A draft may also name a fault that is stored elsewhere.

How a fault is worded decides which of these it is (`Draft.worded`): a text that
comes without arguments is kept as it is, braces and all, and only one that comes
with arguments is read as a template.

`Draft.build` makes the fault.  Arguments are built from left to right, each
before the template is filled, and the first failure wins.  A width or a precision
that is too large is no failure of the draft alone, but an abort.
-/

namespace Faults

/-- An argument of a template that may be made of faults yet to be built. -/
inductive Slot (α : Type) where
  /-- An argument that needs no building. -/
  | value (x : Argument)
  | fault (x : α)
  | option (x : Option α)
  | list (xs : List α)

inductive Draft where
  | bare (status : Int32)
  /-- From a status and a message, which is not read as a template. -/
  | verbatim (status : Int32) (message : String)
  /-- From a status and a template with its arguments. -/
  | template (status : Int32) (text : String) (arguments : List (Slot Draft))
  | stored (name : String)

/-- The draft of a fault that is worded by a text with arguments.  Without any, the
text is not read as a template. -/
def Draft.worded (status : Int32) (text : String) : List (Slot Draft) → Draft
  | [] => .verbatim status text
  | slot :: slots => .template status text (slot :: slots)

inductive DraftError where
  | missing (name : String)
  /-- The template cannot be read or filled. -/
  | template (error : TemplateError)
  | aborted (abort : Abort)
  deriving DecidableEq, Repr

namespace DraftError

def message : DraftError → String
  | missing name => "no register " ++ name
  | template error => error.message
  | aborted abort => abort.message

/-- What a template that cannot be read or filled means for its draft. -/
def ofTemplate : TemplateError → DraftError
  | .countTooLarge _ => aborted .countTooLarge
  | error => template error

end DraftError

namespace Fault

/-- The fault whose message is a filled template; the i-th name stands for the
i-th argument. -/
def ofTemplate (names : List String) (status : Int32) (template : String)
    (arguments : List Argument) : Except TemplateError Fault :=
  (Template.fill isHidden names arguments template.toList).map fun text =>
    ⟨status, String.ofList text⟩

end Fault

section Build

variable (names : List String) (stored : String → Option Fault)

mutual

def Draft.build : Draft → Except DraftError Fault
  | .bare status => .ok (.ofStatus status)
  | .verbatim status message => .ok ⟨status, message⟩
  | .template status text slots => do
    let arguments ← buildSlots slots
    (Fault.ofTemplate names status text arguments).mapError .ofTemplate
  | .stored name =>
    match stored name with
    | some e => .ok e
    | none => .error (.missing name)

/-- Makes the arguments of a template, the first one first. -/
def buildSlots : List (Slot Draft) → Except DraftError (List Argument)
  | [] => .ok []
  | slot :: slots => do
    let argument ← buildSlot slot
    let arguments ← buildSlots slots
    return argument :: arguments

def buildSlot : Slot Draft → Except DraftError Argument
  | .value x => .ok x
  | .fault d => d.build.map fun e => .scalar (.fault e)
  | .option none => .ok (.option none)
  | .option (some d) => d.build.map fun e => .option (some (.fault e))
  | .list ds => (buildAll ds).map fun es => .list (es.map .fault)

/-- Makes the faults of several drafts, the first one first. -/
def buildAll : List Draft → Except DraftError (List Fault)
  | [] => .ok []
  | d :: ds => do
    let e ← d.build
    let es ← buildAll ds
    return e :: es

end

end Build

end Faults
