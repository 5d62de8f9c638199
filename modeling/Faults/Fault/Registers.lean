import Faults.Fault.Distinct
import Faults.Fault.Draft
import Faults.Tagging.Wording

/-!
# Registers of faults

Faults are kept in named registers, in the order of their names.  A
`RegisterStep` makes, copies, wraps, changes, compares or takes out what the
registers hold; `RegisterStep.run` carries it out and says what came of it
(`Reply`).  A step that needs a register which is not there changes nothing and names the
first one missing, in the order in which the step mentions them.  `RegisterStep.runAll`
carries out a history of steps, which ends without an answer if one of them is aborted.
-/

namespace Faults

/-- Named faults in increasing order of their names. -/
structure Registers where
  entries : List (String × Fault)
  deriving Repr

namespace Registers

def empty : Registers := ⟨[]⟩

def get? (r : Registers) (name : String) : Option Fault :=
  r.entries.lookup name

/-- Puts an entry among ordered entries, in place of one with the same name. -/
def place (name : String) (e : Fault) : List (String × Fault) → List (String × Fault)
  | [] => [(name, e)]
  | (other, f) :: rest =>
    if name = other then (name, e) :: rest
    else if name < other then (name, e) :: (other, f) :: rest
    else (other, f) :: place name e rest

def insert (r : Registers) (name : String) (e : Fault) : Registers :=
  ⟨place name e r.entries⟩

def erase (r : Registers) (name : String) : Registers :=
  ⟨r.entries.filter (·.1 ≠ name)⟩

def size (r : Registers) : Nat :=
  r.entries.length

/-- The stored faults, in the order of the names. -/
def faults (r : Registers) : List Fault :=
  r.entries.map Prod.snd

end Registers

/-- A step on registers. -/
inductive RegisterStep where
  | make (target : String) (draft : Draft)
  | copy (source target : String)
  /-- Stores a fault that wraps another strictly. -/
  | wrap (source target : String) (status : Int32)
  /-- Stores a fault that wraps another lazily. -/
  | wrapLazily (source target : String) (status : Int32) (wording : Wording)
  /-- Stores a fault with the same message and another status. -/
  | retag (source target : String) (status : Int32)
  /-- Stores a fault with the same status and another message. -/
  | remessage (source target : String) (message : String)
  /-- Takes a fault out and apart. -/
  | drop (source : String)
  | look (source : String)
  | compare (source other : String)
  /-- Compares all faults with one another. -/
  | distinct

inductive Reply where
  | stored (e : Fault)
  /-- A fault was taken out, and so many registers are left. -/
  | dropped (status : Int32) (message : String) (left : Nat)
  | looked (e : Fault)
  | compared (a b : Fault)
  /-- These faults were compared with one another. -/
  | told (es : List Fault)

namespace RegisterStep

/-- The fault in a register, or the complaint that it is missing. -/
def fetch (r : Registers) (name : String) : Except DraftError Fault :=
  match r.get? name with
  | some e => .ok e
  | none => .error (.missing name)

def store (r : Registers) (target : String) (e : Fault) : Except DraftError (Reply × Registers) :=
  .ok (.stored e, r.insert target e)

/-- The fault that wraps another. -/
def wrapped (stage : Stage Fault) (e : Fault) : Except DraftError Fault :=
  match stage.message e with
  | .ok message => .ok ⟨stage.status, message⟩
  | .error abort => .error (.aborted abort)

def run (names : List String) (r : Registers) :
    RegisterStep → Except DraftError (Reply × Registers)
  | make target draft => do store r target (← draft.build names r.get?)
  | copy source target => do store r target (← fetch r source)
  | wrap source target status => do
    store r target (← wrapped (.strict status) (← fetch r source))
  | wrapLazily source target status wording => do
    store r target (← wrapped (wording.stage status) (← fetch r source))
  | retag source target status => do store r target { ← fetch r source with status }
  | remessage source target message => do store r target { ← fetch r source with message }
  | drop source => do
    let e ← fetch r source
    let left := r.erase source
    return (.dropped e.parts.1 e.parts.2 left.size, left)
  | look source => do return (.looked (← fetch r source), r)
  | compare source other => do return (.compared (← fetch r source) (← fetch r other), r)
  | distinct => return (.told r.faults, r)

/-- Carries out steps one after another.  One that fails changes nothing, and one
that is aborted ends the whole history without an answer. -/
def runAll (names : List String) (r : Registers) :
    List RegisterStep → Except Abort (List (Except DraftError Reply))
  | [] => .ok []
  | step :: steps =>
    match step.run names r with
    | .ok (reply, after) => (runAll names after steps).map (.ok reply :: ·)
    | .error (.aborted abort) => .error abort
    | .error error => (runAll names r steps).map (.error error :: ·)

end RegisterStep

end Faults
