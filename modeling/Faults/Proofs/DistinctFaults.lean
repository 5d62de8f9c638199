import Faults.Fault.Distinct
import Faults.Proofs.CanonicalText
import Mathlib.Data.List.Induction
import Mathlib.Data.List.Nodup

/-!
# Faults are told apart by any hash

A set looks for a fault only in the bucket that a hash of its byte stream names.  Equal
faults have equal streams, so whatever the hash, an equal fault is found in that bucket if
it was ever inserted; and a hash that sends different faults to one bucket does no harm,
since they are compared there.  So a set does what the comparison of every fault with all
before it does.

The induction is on the inserted list, from its end.  The invariant says what all buckets
hold (`FaultSet.Holds`): the faults that were new when they were inserted, and nothing twice.

* `IsFirst`, `newIndices`, `newElements` — first indices, and the indices and elements that
  remain when repetitions are left out;
* `exists_isFirst`, `IsFirst.le`, `IsFirst.isOwnFirst` — each index has its first index, which
  is not greater and is its own first index;
* `newElements_append_singleton` — what one more element adds;
* `FaultSet.Holds.insert`, `FaultSet.holds_ofList` — **the invariant**, for one insertion and
  for all of them;
* `firstIndices_map` — elements may be compared by anything that determines them;
* `faults_are_sound_keys` — sets against the comparison of all faults with one another.
-/

namespace Faults

/-! ## First indices -/

section Lists

variable {α : Type}

/-- The smallest index at which a list holds the same as at an index. -/
structure IsFirst (xs : List α) (i first : Nat) : Prop where
  equal : xs[first]? = xs[i]?
  least : ∀ k, xs[k]? = xs[i]? → first ≤ k

theorem IsFirst.le {xs : List α} {i first : Nat} (h : IsFirst xs i first) : first ≤ i :=
  h.least i rfl

variable [DecidableEq α] {xs : List α} {x : α}

/-- The indices at which a list holds an element that it does not hold before. -/
def newIndices (xs : List α) : List Nat :=
  (List.range xs.length).filter fun i => (firstIndices xs)[i]? = some i

/-- The elements at these indices. -/
def newElements (xs : List α) : List α :=
  (newIndices xs).filterMap (xs[·]?)

theorem getElem?_firstIndices (xs : List α) (i : Nat) :
    (firstIndices xs)[i]? = xs[i]?.map xs.idxOf :=
  List.getElem?_map

theorem isFirst_idxOf {i : Nat} (hx : xs[i]? = some x) : IsFirst xs i (xs.idxOf x) where
  equal := by
    rw [hx, List.getElem?_idxOf (List.mem_of_getElem? hx)]
  least k hk := by
    rw [hx] at hk
    have htake : x ∈ xs.take (k + 1) := by
      refine List.mem_of_getElem? (i := k) ?_
      rw [List.getElem?_take_of_lt (Nat.lt_succ_self k), hk]
    have hlt := (List.mem_take_iff_idxOf_lt (List.mem_of_getElem? hk)).mp htake
    exact Nat.le_of_lt_succ hlt

/-- **Each index has its first index.** -/
theorem exists_isFirst (xs : List α) {i : Nat} (hi : i < xs.length) :
    ∃ first, (firstIndices xs)[i]? = some first ∧ IsFirst xs i first := by
  have hx : xs[i]? = some xs[i] := List.getElem?_eq_getElem hi
  refine ⟨xs.idxOf xs[i], ?_, isFirst_idxOf hx⟩
  rw [getElem?_firstIndices, hx]
  rfl

/-- A first index is its own first index. -/
theorem IsFirst.isOwnFirst {i first : Nat} (h : IsFirst xs i first)
    (hfirst : (firstIndices xs)[i]? = some first) : (firstIndices xs)[first]? = some first := by
  rw [getElem?_firstIndices, h.equal, ← getElem?_firstIndices, hfirst]

section Map

variable {β : Type} [DecidableEq β] {f : α → β}

theorem idxOf_map (hf : Function.Injective f) (xs : List α) (x : α) :
    (xs.map f).idxOf (f x) = xs.idxOf x := by
  induction xs with
  | nil => rfl
  | cons y ys ih =>
      by_cases hy : y = x
      · rw [List.map_cons, List.idxOf_cons_eq _ hy, List.idxOf_cons_eq _ (congrArg f hy)]
      · rw [List.map_cons, List.idxOf_cons_ne _ hy, List.idxOf_cons_ne _ (hf.ne hy), ih]

/-- **Elements may be compared by anything that determines them.** -/
theorem firstIndices_map (hf : Function.Injective f) (xs : List α) :
    firstIndices (xs.map f) = firstIndices xs := by
  rw [firstIndices, List.map_map]
  exact List.map_congr_left fun x _ => idxOf_map hf xs x

theorem newIndices_map (hf : Function.Injective f) (xs : List α) :
    newIndices (xs.map f) = newIndices xs := by
  rw [newIndices, firstIndices_map hf, List.length_map, newIndices]

end Map

/-! ## One more element -/

theorem firstIndices_append_singleton (xs : List α) (x : α) :
    firstIndices (xs ++ [x]) = firstIndices xs ++ [xs.idxOf x] := by
  have hold : ∀ y ∈ xs, (xs ++ [x]).idxOf y = xs.idxOf y :=
    fun y hy => List.idxOf_append_of_mem hy
  have hlast : (xs ++ [x]).idxOf x = xs.idxOf x := by
    by_cases hx : x ∈ xs
    · exact hold x hx
    · rw [List.idxOf_append_of_notMem hx, List.idxOf_of_notMem hx, List.idxOf_cons_self]
      rfl
  rw [firstIndices, List.map_append, List.map_congr_left hold, List.map_singleton, hlast]
  rfl

/-- The last index is new where the element does not stand before. -/
theorem newIndices_append_singleton (xs : List α) (x : α) :
    newIndices (xs ++ [x]) = newIndices xs ++ if x ∈ xs then [] else [xs.length] := by
  have hlength : (firstIndices xs).length = xs.length := List.length_map _
  have hold : ∀ i ∈ List.range xs.length,
      decide ((firstIndices (xs ++ [x]))[i]? = some i) =
        decide ((firstIndices xs)[i]? = some i) := by
    intro i hi
    rw [firstIndices_append_singleton,
      List.getElem?_append_left (by rw [hlength]; exact List.mem_range.mp hi)]
  have hlast : (firstIndices (xs ++ [x]))[xs.length]? = some xs.length ↔ x ∉ xs := by
    rw [firstIndices_append_singleton, ← hlength, List.getElem?_concat_length, hlength,
      Option.some.injEq]
    exact List.idxOf_eq_length_iff
  rw [newIndices, List.length_append, List.length_singleton, List.range_succ,
    List.filter_append, List.filter_congr hold]
  by_cases hx : x ∈ xs <;> simp [newIndices, hlast, hx]

theorem newElements_append_singleton (xs : List α) (x : α) :
    newElements (xs ++ [x]) = newElements xs ++ if x ∈ xs then [] else [x] := by
  have hold : (newIndices xs).filterMap ((xs ++ [x])[·]?) = newElements xs := by
    refine List.filterMap_congr fun i hi => ?_
    have hlt := List.mem_range.mp (List.mem_of_mem_filter hi)
    exact List.getElem?_append_left hlt
  rw [newElements, newIndices_append_singleton, List.filterMap_append, hold]
  split <;> simp

/-- Each new index has its element. -/
theorem length_newElements (xs : List α) : (newElements xs).length = (newIndices xs).length := by
  induction xs using List.reverseRecOn with
  | nil => rfl
  | append_singleton xs x ih =>
      rw [newElements_append_singleton, newIndices_append_singleton, List.length_append,
        List.length_append, ih]
      split <;> rfl

theorem mem_newElements : x ∈ newElements xs ↔ x ∈ xs := by
  induction xs using List.reverseRecOn with
  | nil => rfl
  | append_singleton xs y ih =>
      rw [newElements_append_singleton, List.mem_append, List.mem_append, ih]
      split <;> grind

theorem nodup_newElements (xs : List α) : (newElements xs).Nodup := by
  induction xs using List.reverseRecOn with
  | nil => exact List.nodup_nil
  | append_singleton xs x ih =>
      rw [newElements_append_singleton]
      split
      · rwa [List.append_nil]
      · next hx =>
          rw [← List.concat_eq_append]
          exact ih.concat (mt mem_newElements.mp hx)

/-- Neither the order of the elements nor their repetition matters for how many there are. -/
theorem length_newElements_congr {ys : List α} (h : ∀ x, x ∈ xs ↔ x ∈ ys) :
    (newElements xs).length = (newElements ys).length := by
  have hperm : (newElements xs).Perm (newElements ys) := by
    rw [List.perm_ext_iff_of_nodup (nodup_newElements xs) (nodup_newElements ys)]
    intro x
    rw [mem_newElements, mem_newElements, h x]
  exact hperm.length_eq

end Lists

namespace FaultSet

/-! ## What a set holds -/

section Sets

variable {hash : List UInt8 → Nat} {s : FaultSet} {es : List Fault}

/-- A set holds the faults of a list: each bucket has the new ones that belong there, the latest
first, and no other bucket has them. -/
structure Holds (hash : List UInt8 → Nat) (s : FaultSet) (es : List Fault) : Prop where
  bucket : ∀ home, s.bucket home =
    ((newElements es).filter fun e => hash e.hashBytes = home).reverse
  size : s.size = (newElements es).length

theorem holds_empty (hash : List UInt8 → Nat) : Holds hash empty [] where
  bucket _ := rfl
  size := rfl

/-- **An inserted fault is found where its hash says**, and no other one is. -/
theorem Holds.mem_bucket_iff (h : Holds hash s es) {e : Fault} :
    e ∈ s.bucket (hash e.hashBytes) ↔ e ∈ es := by
  rw [h.bucket, List.mem_reverse, List.mem_filter, mem_newElements]
  simp

/-- One insertion. -/
theorem Holds.insert (h : Holds hash s es) (e : Fault) :
    Holds hash (s.insert hash e) (es ++ [e]) := by
  by_cases he : e ∈ es
  · -- The bucket has the fault already, so nothing changes.
    have hnew : newElements (es ++ [e]) = newElements es := by
      rw [newElements_append_singleton, if_pos he, List.append_nil]
    have hsame : s.insert hash e = s := if_pos (h.mem_bucket_iff.mpr he)
    rw [hsame]
    exact ⟨fun home => by rw [hnew, h.bucket home], by rw [hnew, h.size]⟩
  · have hnew : newElements (es ++ [e]) = newElements es ++ [e] := by
      rw [newElements_append_singleton, if_neg he]
    have hput : s.insert hash e =
        { bucket := fun home =>
            if home = hash e.hashBytes then e :: s.bucket home else s.bucket home
          size := s.size + 1 } := if_neg (mt h.mem_bucket_iff.mp he)
    rw [hput]
    refine ⟨fun home => ?_, ?_⟩
    · -- The fault stands before those that were in its bucket, and in no other bucket.
      rw [hnew, List.filter_append, List.reverse_append, ← h.bucket home]
      by_cases hhome : home = hash e.hashBytes
      · simp [hhome]
      · simp [hhome, Ne.symm hhome]
    · rw [hnew, List.length_append, h.size]
      rfl

/-- **All insertions.**  Whatever the hash, a set holds the faults of the list. -/
theorem holds_ofList (hash : List UInt8 → Nat) (es : List Fault) :
    Holds hash (ofList hash es) es := by
  induction es using List.reverseRecOn with
  | nil => exact holds_empty hash
  | append_singleton es e ih =>
      rw [ofList, List.foldl_append]
      exact ih.insert e

end Sets

end FaultSet

/-- **Faults are sound keys of sets, whatever the hash.**

For each index there is a first index, the smallest one at which a fault with the same status
and the same message stands.  It is not greater, and it is its own first index.  A set into
which the faults are inserted from left to right has as many elements as there are indices
that are their own first index; a bucket holds the faults at these indices that belong
there; and a fault is found in the bucket to which it belongs exactly if it was inserted.

Any other list of the same faults, in another order and with other repetitions, makes a
set of the same size, even with another hash.  And the same indices remain when
canonical texts are compared instead of faults. -/
theorem faults_are_sound_keys (hash : List UInt8 → Nat) (es : List Fault) :
    (∀ i, i < es.length → ∃ first, (firstIndices es)[i]? = some first ∧
      IsFirst (es.map Fault.parts) i first ∧ first ≤ i ∧
        (firstIndices es)[first]? = some first) ∧
    (FaultSet.ofList hash es).size = (newIndices es).length ∧
    (∀ home, (FaultSet.ofList hash es).bucket home =
      ((newElements es).filter fun e => hash e.hashBytes = home).reverse) ∧
    (∀ e, e ∈ (FaultSet.ofList hash es).bucket (hash e.hashBytes) ↔ e ∈ es) ∧
    (∀ (other : List Fault) (otherHash : List UInt8 → Nat), (∀ e, e ∈ other ↔ e ∈ es) →
      (FaultSet.ofList otherHash other).size = (FaultSet.ofList hash es).size) ∧
    newIndices (es.map Fault.canonical) = newIndices es := by
  have hset := FaultSet.holds_ofList hash es
  refine ⟨?_, ?_, hset.bucket, fun e => hset.mem_bucket_iff, ?_,
    newIndices_map Fault.canonical_injective es⟩
  · intro i hi
    have hparts : firstIndices (es.map Fault.parts) = firstIndices es :=
      firstIndices_map Fault.parts_injective es
    obtain ⟨first, hindex, hfirst⟩ :=
      exists_isFirst (es.map Fault.parts) (by rwa [List.length_map])
    have hself := hfirst.isOwnFirst hindex
    rw [hparts] at hindex hself
    exact ⟨first, hindex, hfirst, hfirst.le, hself⟩
  · rw [hset.size, length_newElements]
  · intro other otherHash hsame
    rw [(FaultSet.holds_ofList otherHash other).size, hset.size,
      length_newElements_congr hsame]

/-- One bucket holds two faults, one of which was inserted twice; and so it does when they
are inserted from the right to the left. -/
theorem one_bucket_tells_two_faults_apart :
    let es : List Fault := [⟨1, "a"⟩, ⟨1, "b"⟩, ⟨1, "a"⟩]
    2 < es.length ∧
      (∃ first, (firstIndices es)[2]? = some first ∧ first ≤ 2 ∧
        (firstIndices es)[first]? = some first) ∧
      (∀ e, e ∈ es.reverse ↔ e ∈ es) ∧ (FaultSet.ofList (fun _ => 0) es.reverse).size = 2 := by
  intro es
  obtain ⟨hindices, hsize, -, -, hsame, -⟩ := faults_are_sound_keys (fun _ => 0) es
  have hlength : 2 < es.length := by decide
  have hmem : ∀ e, e ∈ es.reverse ↔ e ∈ es := fun _ => List.mem_reverse
  have hnew : (newIndices es).length = 2 := by decide
  obtain ⟨first, hfirst, -, hle, hself⟩ := hindices 2 hlength
  exact ⟨hlength, ⟨first, hfirst, hle, hself⟩, hmem,
    (hsame es.reverse (fun _ => 0) hmem).trans (hsize.trans hnew)⟩

end Faults
