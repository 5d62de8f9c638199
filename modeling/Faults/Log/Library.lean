import Faults.Log.Pair

/-!
# Libraries for logging

Loggers, and the way in which pairs reach a sink, are the business of a library for
logging.  Nothing is assumed of it but what stands here.  A `LogLibrary` is what the
library can do: make loggers, make the record of a statement that reports an error,
and serialize pairs, loggers, records and values of its own kinds.  How a single pair
is handed over it learns from its users, since a pair may hold a value of theirs.

`LogLibrary.Lawful` says how a library for logging is known to do this:

* pairs are serialized in the order given, and the first refusal ends it;
* a logger has its own pairs and then those of its parent, a record has its own pairs
  and then those of its logger;
* a statement that lists pairs has them in the reverse order;
* a value of one of the library's kinds is one emission in the form of its kind, a
  value of another kind serializes itself, and a failure of any kind is offered as one;
* a failure is described by its text, where no other failure stands behind it.
-/

namespace Faults

inductive Severity where
  | critical
  | error
  | warning
  | info
  | debug
  | trace
  deriving DecidableEq, Repr

/-- The place among the severities, the most severe first. -/
def Severity.rank : Severity → Nat
  | critical => 0
  | error => 1
  | warning => 2
  | info => 3
  | debug => 4
  | trace => 5

/-- A record on its way from a logger to a sink. -/
structure Record (Λ : Type) where
  severity : Severity
  tag : String
  message : String
  pairs : List Pair
  /-- The logger that it was logged through. -/
  logger : Λ
  deriving Repr

/-- What a library for logging can do. -/
structure LogLibrary where
  Logger : Type
  root (pairs : List Pair) : Logger
  child (pairs : List Pair) (parent : Logger) : Logger
  /-- The record of a statement that reports an error, with the pairs that it lists. -/
  errorRecord (logger : Logger) (message : String) (listed : List Pair) : Record Logger
  /-- The text of a failure with those of the failures behind it. -/
  describe (text : String) (behind : List String) : String
  /-- Serializes a value; those of other kinds than the library's in their own way. -/
  serializeValue {ε σ : Type} (sink : Sink ε σ) (own : String → Fault → Refusable ε σ Unit)
    (key : String) (value : PairValue) : Refusable ε σ Unit
  serializePairs {ε σ : Type} (hand : Pair → Refusable ε σ Unit) (pairs : List Pair) :
    Refusable ε σ Unit
  serializeLogger {ε σ : Type} (hand : Pair → Refusable ε σ Unit) (logger : Logger) :
    Refusable ε σ Unit
  serializeRecord {ε σ : Type} (hand : Pair → Refusable ε σ Unit) (r : Record Logger) :
    Refusable ε σ Unit

/-- How a library for logging does it. -/
structure LogLibrary.Lawful (L : LogLibrary) : Prop where
  /-- The listed pairs are in the reverse order, and there is no tag. -/
  errorRecord_eq : ∀ logger message listed, L.errorRecord logger message listed =
    { severity := .error, tag := "", message, pairs := listed.reverse, logger }
  describe_nil : ∀ text, L.describe text [] = text
  value_text : ∀ {ε σ : Type} (sink : Sink ε σ) own key s,
    L.serializeValue sink own key (.text s) = sink (.value ⟨key, .text s⟩)
  value_int32 : ∀ {ε σ : Type} (sink : Sink ε σ) own key n,
    L.serializeValue sink own key (.int32 n) = sink (.value ⟨key, .int32 n⟩)
  value_int64 : ∀ {ε σ : Type} (sink : Sink ε σ) own key n,
    L.serializeValue sink own key (.int64 n) = sink (.value ⟨key, .int64 n⟩)
  value_truth : ∀ {ε σ : Type} (sink : Sink ε σ) own key b,
    L.serializeValue sink own key (.truth b) = sink (.value ⟨key, .truth b⟩)
  value_character : ∀ {ε σ : Type} (sink : Sink ε σ) own key c,
    L.serializeValue sink own key (.character c) = sink (.value ⟨key, .character c⟩)
  value_unit : ∀ {ε σ : Type} (sink : Sink ε σ) own key,
    L.serializeValue sink own key .unit = sink (.value ⟨key, .unit⟩)
  value_some : ∀ {ε σ : Type} (sink : Sink ε σ) own key n,
    L.serializeValue sink own key (.optional (some n)) = sink (.value ⟨key, .int32 n⟩)
  value_none : ∀ {ε σ : Type} (sink : Sink ε σ) own key,
    L.serializeValue sink own key (.optional none) = sink (.value ⟨key, .absent⟩)
  /-- A value of another kind serializes itself. -/
  value_fault : ∀ {ε σ : Type} (sink : Sink ε σ) own key e,
    L.serializeValue sink own key (.fault e) = own key e
  /-- What is wrapped as a failure is offered as one. -/
  value_failure : ∀ {ε σ : Type} (sink : Sink ε σ) own key e,
    L.serializeValue sink own key (.failure e) = sink (.failure key e)
  pairs_nil : ∀ {ε σ : Type} (hand : Pair → Refusable ε σ Unit),
    L.serializePairs hand [] = pure ()
  pairs_cons : ∀ {ε σ : Type} (hand : Pair → Refusable ε σ Unit) pair pairs,
    L.serializePairs hand (pair :: pairs) = do
      hand pair
      L.serializePairs hand pairs
  logger_root : ∀ {ε σ : Type} (hand : Pair → Refusable ε σ Unit) pairs,
    L.serializeLogger hand (L.root pairs) = L.serializePairs hand pairs
  logger_child : ∀ {ε σ : Type} (hand : Pair → Refusable ε σ Unit) pairs parent,
    L.serializeLogger hand (L.child pairs parent) = do
      L.serializePairs hand pairs
      L.serializeLogger hand parent
  record_eq : ∀ {ε σ : Type} (hand : Pair → Refusable ε σ Unit) (r : Record L.Logger),
    L.serializeRecord hand r = do
      L.serializePairs hand r.pairs
      L.serializeLogger hand r.logger

end Faults
