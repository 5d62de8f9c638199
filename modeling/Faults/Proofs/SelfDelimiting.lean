import Faults.Fault.Basic

/-!
# Self-delimiting writings

Values of a type are written as lists of symbols: characters, or bytes.  A way
of writing is **self-delimiting** when a reader who knows that a list begins
with a written value can tell which value it is and where its writing ends,
whatever stands behind.  No separator, length or end mark outside the writing
is needed, and nothing inside a value can imitate the end of it.

This is stronger than injectivity, and unlike injectivity it composes:

* `SelfDelimiting.injective`, `SelfDelimiting.eq_of_isPrefix` — a written value
  determines the value, and none is a proper beginning of another;
* `SelfDelimiting.lead`, `SelfDelimiting.trail`, `SelfDelimiting.pair` — fixed
  symbols may stand around a writing, and one may stand behind another;
* `selfDelimiting_terminated`, `selfDelimiting_fixedWidth` — two ways to begin:
  end a writing by a symbol that it never holds, or give all writings one length;
* `SelfDelimiting.flatMap_injective`, `SelfDelimiting.flatMap_append` — the
  concatenation of the writings of a list determines the list, and where the
  length is known, also its own end;
* `SelfDelimiting.sequence` — such a concatenation is itself self-delimiting
  when it is ended by a symbol that begins no writing;
* `Fault.selfDelimiting_fields` — a fault may be written field by field.
-/

namespace Faults

variable {α β γ : Type}

/-- Whatever stands behind it, a written value determines the value and its
own end. -/
def SelfDelimiting (write : α → List γ) : Prop :=
  ∀ a b r s, write a ++ r = write b ++ s → a = b ∧ r = s

namespace SelfDelimiting

variable {write : α → List γ}

theorem injective (hwrite : SelfDelimiting write) : Function.Injective write := by
  intro a b heq
  have happ : write a ++ [] = write b ++ [] := by rw [heq]
  exact (hwrite a b [] [] happ).1

/-- No self-delimiting writing is a proper beginning of another. -/
theorem eq_of_isPrefix (hwrite : SelfDelimiting write) {a b : α}
    (hbegin : write a <+: write b) : a = b := by
  obtain ⟨rest, hrest⟩ := hbegin
  have happ : write a ++ rest = write b ++ [] := by rw [hrest, List.append_nil]
  exact (hwrite a b rest [] happ).1

/-- Fixed symbols may stand before a self-delimiting writing. -/
theorem lead (hwrite : SelfDelimiting write) (before : List γ) :
    SelfDelimiting fun a => before ++ write a := by
  intro a b r s heq
  simp only [List.append_assoc, List.append_cancel_left_eq] at heq
  exact hwrite a b r s heq

/-- Fixed symbols may stand behind a self-delimiting writing. -/
theorem trail (hwrite : SelfDelimiting write) (behind : List γ) :
    SelfDelimiting fun a => write a ++ behind := by
  intro a b r s heq
  simp only [List.append_assoc] at heq
  obtain ⟨rfl, hrest⟩ := hwrite a b _ _ heq
  exact ⟨rfl, List.append_cancel_left hrest⟩

/-- Two self-delimiting writings may stand one behind the other. -/
theorem pair (hwrite : SelfDelimiting write) {other : β → List γ}
    (hother : SelfDelimiting other) :
    SelfDelimiting fun p : α × β => write p.1 ++ other p.2 := by
  intro p q r s heq
  simp only [List.append_assoc] at heq
  obtain ⟨hfst, hrest⟩ := hwrite p.1 q.1 _ _ heq
  obtain ⟨hsnd, hend⟩ := hother p.2 q.2 r s hrest
  exact ⟨Prod.ext hfst hsnd, hend⟩

/-- A value may be written by writing what determines it. -/
theorem comp (hwrite : SelfDelimiting write) {view : β → α}
    (hview : Function.Injective view) : SelfDelimiting fun b => write (view b) := by
  intro a b r s heq
  obtain ⟨hsame, hend⟩ := hwrite _ _ r s heq
  exact ⟨hview hsame, hend⟩

/-- Equally many self-delimiting writings in a row determine their values and
their end, whatever stands behind them. -/
theorem flatMap_append (hwrite : SelfDelimiting write) {xs ys : List α} {r s : List γ}
    (hlength : xs.length = ys.length)
    (heq : xs.flatMap write ++ r = ys.flatMap write ++ s) : xs = ys ∧ r = s := by
  induction xs generalizing ys with
  | nil =>
      obtain rfl := List.length_eq_zero_iff.mp hlength.symm
      exact ⟨rfl, by simpa using heq⟩
  | cons x xs ih =>
      cases ys with
      | nil => exact absurd hlength (by simp)
      | cons y ys =>
          simp only [List.flatMap_cons, List.append_assoc] at heq
          obtain ⟨rfl, hrest⟩ := hwrite x y _ _ heq
          obtain ⟨rfl, hend⟩ := ih (by simpa using hlength) hrest
          exact ⟨rfl, hend⟩

/-- A list is determined by the concatenation of the writings of its elements,
provided that none of them is empty. -/
theorem flatMap_injective (hwrite : SelfDelimiting write) (hne : ∀ a, write a ≠ []) :
    Function.Injective fun xs : List α => xs.flatMap write := by
  intro xs ys heq
  simp only at heq
  induction xs generalizing ys with
  | nil =>
      cases ys with
      | nil => rfl
      | cons y ys =>
          have hempty := List.append_eq_nil_iff.mp (heq.symm : write y ++ _ = [])
          exact absurd hempty.1 (hne y)
  | cons x xs ih =>
      cases ys with
      | nil =>
          have hempty := List.append_eq_nil_iff.mp (heq : write x ++ _ = [])
          exact absurd hempty.1 (hne x)
      | cons y ys =>
          rw [List.flatMap_cons, List.flatMap_cons] at heq
          obtain ⟨rfl, hrest⟩ := hwrite x y _ _ heq
          rw [ih hrest]

/-- Self-delimiting writings in a row, ended by a symbol that begins none of
them, are self-delimiting together. -/
theorem sequence (hwrite : SelfDelimiting write) {stop : γ}
    (hstop : ∀ a r s, write a ++ r ≠ stop :: s) :
    SelfDelimiting fun xs : List α => xs.flatMap write ++ [stop] := by
  intro xs ys r s heq
  induction xs generalizing ys with
  | nil =>
      cases ys with
      | nil => exact ⟨rfl, by simpa using heq⟩
      | cons y ys =>
          simp only [List.flatMap_nil, List.flatMap_cons, List.append_assoc,
            List.nil_append, List.singleton_append] at heq
          exact absurd heq.symm (hstop y _ _)
  | cons x xs ih =>
      cases ys with
      | nil =>
          simp only [List.flatMap_nil, List.flatMap_cons, List.append_assoc,
            List.nil_append, List.singleton_append] at heq
          exact absurd heq (hstop x _ _)
      | cons y ys =>
          simp only [List.flatMap_cons, List.append_assoc] at heq
          obtain ⟨rfl, hrest⟩ := hwrite x y _ _ heq
          obtain ⟨rfl, hend⟩ := ih ys (by simpa only [List.append_assoc] using hrest)
          exact ⟨rfl, hend⟩

end SelfDelimiting

/-- Two lists that do not hold a symbol are told apart, with all that follows
them, by the first place where the symbol stands. -/
theorem append_cons_cancel_of_notMem {stop : γ} {xs ys r s : List γ}
    (hxs : stop ∉ xs) (hys : stop ∉ ys) (heq : xs ++ stop :: r = ys ++ stop :: s) :
    xs = ys ∧ r = s := by
  induction xs generalizing ys with
  | nil =>
      cases ys with
      | nil => exact ⟨rfl, by simpa using heq⟩
      | cons y ys =>
          simp only [List.nil_append, List.cons_append, List.cons.injEq] at heq
          exact absurd (heq.1 ▸ List.mem_cons_self) hys
  | cons x xs ih =>
      cases ys with
      | nil =>
          simp only [List.nil_append, List.cons_append, List.cons.injEq] at heq
          exact absurd (heq.1 ▸ List.mem_cons_self) hxs
      | cons y ys =>
          simp only [List.cons_append, List.cons.injEq] at heq
          have hxs' : stop ∉ xs := fun h => hxs (List.mem_cons_of_mem x h)
          have hys' : stop ∉ ys := fun h => hys (List.mem_cons_of_mem y h)
          obtain ⟨hrest, hend⟩ := ih hxs' hys' heq.2
          exact ⟨by rw [heq.1, hrest], hend⟩

/-- An injective writing becomes self-delimiting when it is ended by a symbol
that it never holds. -/
theorem selfDelimiting_terminated {write : α → List γ} (hwrite : Function.Injective write)
    {stop : γ} (hfree : ∀ a, stop ∉ write a) :
    SelfDelimiting fun a => write a ++ [stop] := by
  intro a b r s heq
  simp only [List.append_assoc, List.singleton_append] at heq
  obtain ⟨hsame, hend⟩ := append_cons_cancel_of_notMem (hfree a) (hfree b) heq
  exact ⟨hwrite hsame, hend⟩

theorem selfDelimiting_fixedWidth {write : α → List γ} (hwrite : Function.Injective write)
    {width : Nat} (hwidth : ∀ a, (write a).length = width) : SelfDelimiting write := by
  intro a b r s heq
  obtain ⟨hsame, hend⟩ := List.append_inj heq (by rw [hwidth a, hwidth b])
  exact ⟨hwrite hsame, hend⟩

/-! ## Faults -/

namespace Fault

theorem parts_injective : Function.Injective parts := by
  rintro ⟨s, m⟩ ⟨t, n⟩ heq
  simpa [parts] using heq

/-- A fault may be written field by field. -/
theorem selfDelimiting_fields {status : Int32 → List γ} {message : String → List γ}
    (hstatus : SelfDelimiting status) (hmessage : SelfDelimiting message) :
    SelfDelimiting fun e : Fault => status e.status ++ message e.message :=
  (hstatus.pair hmessage).comp parts_injective

end Fault

end Faults
