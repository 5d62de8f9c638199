import Faults.Format.Layout
import Faults.Proofs.SelfDelimiting

/-!
# Structured values are self-delimiting when their parts are

A layout writes a value around the texts of its parts, on one line or on many.
If the parts are self-delimiting, so is the whole, in both layouts and at any
depth of nesting.

The expanded layout indents the text of a part at the start of each of its
lines.  This loses nothing, whatever the part looks like, because the indented
text can be outdented from left to right by a reader who does not know where it
ends (`Layout.outdentFrom_indentFrom`).  And within a line nothing is changed
(`Layout.indent_line`), so a part without newlines of its own stands in the
expanded layout exactly as it is.

* `SelfDelimiting.indent` — indented writings;
* `SelfDelimiting.option` — values that may be absent;
* `SelfDelimiting.list` — lists, provided that no element's text begins with
  the bracket that closes them.
-/

namespace Faults

namespace Layout

/-! ## Indentation -/

/-- Whether a reader stands at the start of a line behind a text. -/
def endsLine : (atStart : Bool) → Text → Bool
  | atStart, [] => atStart
  | _, c :: rest => endsLine (c == '\n') rest

/-- Takes four characters away at the start of each line. -/
def outdentFrom : (atStart : Bool) → Text → Text
  | true, _ :: _ :: _ :: _ :: c :: rest => c :: outdentFrom (c == '\n') rest
  | false, c :: rest => c :: outdentFrom (c == '\n') rest
  | _, _ => []

/-- **Outdenting inverts indenting**, and goes on behind the indented text. -/
theorem outdentFrom_indentFrom (atStart : Bool) (text rest : Text) :
    outdentFrom atStart (indentFrom atStart text ++ rest) =
      text ++ outdentFrom (endsLine atStart text) rest := by
  induction text generalizing atStart with
  | nil => cases atStart <;> rfl
  | cons c text ih =>
      have hrest := ih (c == '\n')
      cases atStart <;>
        simp only [indentFrom, endsLine, outdentFrom, List.cons_append, hrest]

/-- Within a line nothing is indented. -/
theorem indentFrom_append_of_notMem {text : Text} (h : '\n' ∉ text) (rest : Text) :
    indentFrom false (text ++ rest) = text ++ indentFrom false rest := by
  induction text with
  | nil => rfl
  | cons c text ih =>
      rw [List.mem_cons, not_or] at h
      have hline : (c == '\n') = false := beq_false_of_ne (Ne.symm h.1)
      rw [List.cons_append, indentFrom, hline, ih h.2]
      rfl

/-- **A line keeps its text**: it is moved to the right, and the next line begins
behind it. -/
theorem indent_line {line : Text} (h : '\n' ∉ line) (rest : Text) :
    indent (line ++ '\n' :: rest) = "    ".toList ++ line ++ '\n' :: indent rest := by
  cases line with
  | nil => rfl
  | cons c line =>
      rw [List.mem_cons, not_or] at h
      have hline : (c == '\n') = false := beq_false_of_ne (Ne.symm h.1)
      rw [indent, List.cons_append, indentFrom, hline, indentFrom_append_of_notMem h.2]
      rfl

/-- A part without newlines stands as it is, behind four spaces and before a
comma. -/
theorem entry_of_notMem {text : Text} (h : '\n' ∉ text) :
    entry text = "    ".toList ++ text ++ [',', '\n'] := by
  have hline : '\n' ∉ text ++ [','] := by
    simpa using h
  have hindented := indent_line hline []
  simp only [List.append_assoc] at hindented ⊢
  exact hindented

/-- An entry begins with a space. -/
theorem entry_append_ne_cons {stop : Char} (hstop : stop ≠ ' ') (text r s : Text) :
    entry text ++ r ≠ stop :: s := by
  have hspace : ∃ rest, entry text = ' ' :: rest := by
    cases text with
    | nil => exact ⟨_, rfl⟩
    | cons c text => exact ⟨_, rfl⟩
  obtain ⟨rest, hrest⟩ := hspace
  intro heq
  rw [hrest, List.cons_append] at heq
  exact hstop (List.cons.inj heq).1.symm

/-- Parts with a separator between them: the first one, then each further one
behind the separator. -/
theorem intercalate_cons_eq_flatMap (separator first : Text) (parts : List Text) :
    separator.intercalate (first :: parts) =
      first ++ parts.flatMap fun part => separator ++ part := by
  induction parts generalizing first with
  | nil => rw [List.intercalate_singleton, List.flatMap_nil, List.append_nil]
  | cons second parts ih =>
      rw [List.intercalate_cons_cons, ih, List.flatMap_cons]
      simp only [List.append_assoc]

end Layout

namespace SelfDelimiting

variable {α : Type} {write : α → Text}

theorem indent (hwrite : SelfDelimiting write) :
    SelfDelimiting fun a => Layout.indent (write a) := by
  intro a b r s heq
  have houtdented := congrArg (Layout.outdentFrom true) heq
  simp only [Layout.indent, Layout.outdentFrom_indentFrom] at houtdented
  obtain ⟨rfl, -⟩ := hwrite a b _ _ houtdented
  exact ⟨rfl, List.append_cancel_left heq⟩

theorem entry (hwrite : SelfDelimiting write) :
    SelfDelimiting fun a => Layout.entry (write a) :=
  (hwrite.trail [',', '\n']).indent

/-- **Values that may be absent** are self-delimiting, in either layout. -/
theorem option (hwrite : SelfDelimiting write) (expanded : Bool) :
    SelfDelimiting fun o : Option α => Layout.option expanded (o.map write) := by
  have hsome : SelfDelimiting fun a => Layout.option expanded (some (write a)) := by
    cases expanded with
    | false =>
        have hparts := (hwrite.lead "Some(".toList).trail [')']
        simpa [Layout.option, Layout.tuple] using hparts
    | true =>
        have hparts := (hwrite.entry.lead "Some(\n".toList).trail [')']
        simpa [Layout.option, Layout.tuple] using hparts
  have hnone : ∀ a r s, Layout.option expanded (some (write a)) ++ r ≠
      Layout.option expanded none ++ s := by
    intro a r s heq
    cases expanded <;> exact absurd (List.cons.inj heq).1 (by decide)
  intro o p r s heq
  cases o with
  | none =>
      cases p with
      | none => exact ⟨rfl, List.append_cancel_left heq⟩
      | some b => exact absurd heq.symm (hnone b s r)
  | some a =>
      cases p with
      | none => exact absurd heq (hnone a r s)
      | some b =>
          obtain ⟨rfl, hend⟩ := hsome a b r s heq
          exact ⟨rfl, hend⟩

/-- Lists that are not empty, given as a first element and the others. -/
theorem list_cons (hwrite : SelfDelimiting write) (expanded : Bool) :
    SelfDelimiting fun p : α × List α => Layout.list expanded ((p.1 :: p.2).map write) := by
  cases expanded with
  | false =>
      have hcomma : ∀ a r s, ([',', ' '] ++ write a) ++ r ≠ ']' :: s := by
        intro a r s heq
        exact absurd (List.cons.inj heq).1 (by decide)
      have hothers := (hwrite.lead [',', ' ']).sequence hcomma
      have hparts := (hwrite.pair hothers).lead ['[']
      have hshape : (fun p : α × List α => Layout.list false ((p.1 :: p.2).map write)) =
          fun p => ['['] ++ (write p.1 ++
            (p.2.flatMap (fun a => [',', ' '] ++ write a) ++ [']'])) := by
        funext p
        rw [Layout.list, if_neg (by simp), List.map_cons, Layout.intercalate_cons_eq_flatMap,
          List.flatMap_map]
        simp only [List.append_assoc, List.cons_append, List.nil_append]
      rw [hshape]
      exact hparts
  | true =>
      have hspace : ∀ a r s, Layout.entry (write a) ++ r ≠ ']' :: s := by
        intro a r s
        exact Layout.entry_append_ne_cons (by decide) (write a) r s
      have hothers := hwrite.entry.sequence hspace
      have hparts := (hwrite.entry.pair hothers).lead ['[', '\n']
      have hshape : (fun p : α × List α => Layout.list true ((p.1 :: p.2).map write)) =
          fun p => ['[', '\n'] ++ (Layout.entry (write p.1) ++
            (p.2.flatMap (fun a => Layout.entry (write a)) ++ [']'])) := by
        funext p
        rw [Layout.list, if_pos (by simp), List.map_cons, List.flatMap_cons, List.flatMap_map]
        simp only [List.append_assoc, List.cons_append, List.nil_append]
      rw [hshape]
      exact hparts

/-- **Lists** are self-delimiting, in either layout, when no element begins with
the closing bracket. -/
theorem list (hwrite : SelfDelimiting write) (hstop : ∀ a r s, write a ++ r ≠ ']' :: s)
    (expanded : Bool) :
    SelfDelimiting fun xs : List α => Layout.list expanded (xs.map write) := by
  have hempty : ∀ a as r s, Layout.list expanded ((a :: as).map write) ++ r ≠
      Layout.list expanded (([] : List α).map write) ++ s := by
    intro a as r s heq
    cases expanded with
    | false =>
        rw [List.map_cons, Layout.list, if_neg (by simp),
          Layout.intercalate_cons_eq_flatMap] at heq
        simp only [List.append_assoc, List.cons_append] at heq
        exact hstop a _ _ (List.cons.inj heq).2
    | true =>
        rw [List.map_cons, Layout.list, if_pos (by simp)] at heq
        exact absurd (List.cons.inj (List.cons.inj heq).2).1 (by decide)
  intro xs ys r s heq
  cases xs with
  | nil =>
      cases ys with
      | nil => exact ⟨rfl, List.append_cancel_left heq⟩
      | cons b bs => exact absurd heq.symm (hempty b bs s r)
  | cons a as =>
      cases ys with
      | nil => exact absurd heq (hempty a as r s)
      | cons b bs =>
          obtain ⟨hsame, hend⟩ := hwrite.list_cons expanded (a, as) (b, bs) r s heq
          obtain ⟨rfl, rfl⟩ := Prod.mk.inj hsame
          exact ⟨rfl, hend⟩

end SelfDelimiting

end Faults
