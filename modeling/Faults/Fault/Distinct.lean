import Faults.Fault.Bytes

/-!
# Sets of faults

Faults are told apart in two ways that give the same answer.

* `firstIndices` compares each fault of a list with all before it;
* a `FaultSet` keeps faults in buckets, and looks for a fault only in the bucket
  that a hash of its byte stream names.  The hash is a parameter: however
  badly it spreads, it decides where a fault is looked for and nothing else.
-/

namespace Faults

/-- For each element, the smallest index at which a list holds an equal one. -/
def firstIndices {α : Type} [DecidableEq α] (xs : List α) : List Nat :=
  xs.map fun x => xs.idxOf x

/-- A set of faults, spread over numbered buckets. -/
structure FaultSet where
  /-- The contents of each bucket, the latest insertion first. -/
  bucket : Nat → List Fault
  size : Nat

namespace FaultSet

def empty : FaultSet :=
  ⟨fun _ => [], 0⟩

/-- Inserts a fault unless its bucket already holds it. -/
def insert (hash : List UInt8 → Nat) (s : FaultSet) (e : Fault) : FaultSet :=
  let home := hash e.hashBytes
  if e ∈ s.bucket home then s
  else
    { bucket := fun k => if k = home then e :: s.bucket k else s.bucket k
      size := s.size + 1 }

/-- The set of the faults of a list, inserted from left to right. -/
def ofList (hash : List UInt8 → Nat) (es : List Fault) : FaultSet :=
  es.foldl (insert hash) empty

/-- A hash of bytes that spreads faults over 256 buckets. -/
def spread (bytes : List UInt8) : Nat :=
  bytes.foldl (fun h b => (h * 31 + b.toNat) % 256) 0

end FaultSet

def countDistinct (es : List Fault) : Nat :=
  (FaultSet.ofList FaultSet.spread es).size

end Faults
