import Faults.Fault.Basic

/-!
# Pairs of a log record

A log record carries pairs of a key and a value, and they are handed to a *sink*, one
at a time; each changes the state of the sink or is refused.  What a sink is asked to
take is an `Offer`: an `Emission`, which is a key with a value in the form in which
the sink receives it, or a failure of any kind under a key.

A fault serializes itself in two ways.  As a value it is one emission, its canonical
text (`Fault.serializeValue`).  Spread out as pairs it is two emissions, its status
under `err_code` and its message under `err_msg`, in this order (`Fault.serialize`).
The first refusal ends it: the state reached by then remains, and the refusal is the
result.  Values of other kinds are not serialized here.

`Refusable` is a computation with a state that a refusal does not undo.
-/

namespace Faults

/-- A value in the form in which a sink receives it. -/
inductive Emitted where
  | text (s : String)
  | int32 (n : Int32)
  | int64 (n : Int64)
  | truth (b : Bool)
  | character (c : Char)
  | unit
  | absent
  /-- A text that was put together for the occasion. -/
  | rendered (s : String)
  deriving DecidableEq, Repr

/-- A key with its value, as a sink receives them. -/
structure Emission where
  /-- The key; keys may occur more than once. -/
  key : String
  value : Emitted
  deriving DecidableEq, Repr

/-- What a sink is asked to take. -/
inductive Offer where
  | value (emission : Emission)
  /-- A failure of any kind, which the sink may take in a way of its own. -/
  | failure (key : String) (e : Fault)
  deriving DecidableEq, Repr

def Offer.key : Offer → String
  | value emission => emission.key
  | failure key _ => key

inductive PairValue where
  | text (s : String)
  | int32 (n : Int32)
  | int64 (n : Int64)
  | truth (b : Bool)
  | character (c : Char)
  | unit
  | optional (n : Option Int32)
  | fault (e : Fault)
  /-- A fault in the wrapping for failures of any kind. -/
  | failure (e : Fault)
  deriving DecidableEq, Repr

/-- A pair of a log record or of a logger. -/
inductive Pair where
  | keyed (key : String) (value : PairValue)
  /-- A fault spread out over two pairs. -/
  | spread (e : Fault)
  deriving DecidableEq, Repr

/-- A computation on the state of a sink that may end in a refusal. -/
abbrev Refusable (ε σ : Type) := EStateM ε σ

/-- How a sink takes what it is offered. -/
abbrev Sink (ε σ : Type) := Offer → Refusable ε σ Unit

namespace Fault

variable {ε σ : Type} (sink : Sink ε σ)

def statusKey : String := "err_code"

def messageKey : String := "err_msg"

/-- A fault as a value under a key: its canonical text. -/
def serializeValue (key : String) (e : Fault) : Refusable ε σ Unit :=
  sink (.value ⟨key, .rendered e.canonical⟩)

/-- A fault spread over two emissions: the status, then the message. -/
def serialize (e : Fault) : Refusable ε σ Unit := do
  sink (.value ⟨statusKey, .int32 e.status⟩)
  sink (.value ⟨messageKey, .text e.message⟩)

end Fault

end Faults
