import Faults.Format.Template.Fill

/-!
# Templates that are one placeholder

The shortest way to word a value is a template that holds nothing but a place
for it.  Filled, such a template is the text of its only argument in the style
and with the flags of the placeholder: no character is added, and none of the
argument's text is read as a template again.

* `Template.read_placeholder` — a placeholder, whatever follows it;
* `Template.read_single`, `Template.fill_single` — a placeholder alone;
* `Template.fill_plain`, `Template.fill_inspecting` — the placeholders for the
  plain text, and for the text that shows a value's structure.
-/

namespace Faults.Template

variable {hidden : Char → Bool} {names : List String} {x : Argument} {text : Text}

/-- A brace that is closed behind a body is read as the placeholder of that body,
whatever follows. -/
theorem read_placeholder (body : Text) {p : Placeholder} {rest : Text} {pieces : List Piece}
    (hsingle : body.head? ≠ some '{')
    (hsplit : splitBody (body ++ '}' :: rest) = some (body, rest)) (hbody : readBody body = .ok p)
    (hrest : read rest = .ok pieces) :
    read ('{' :: (body ++ '}' :: rest)) = .ok (.placeholder p :: pieces) := by
  rw [read]
  · split
    · next heq =>
        rw [hsplit] at heq
        exact absurd heq (Option.some_ne_none _)
    · next heq =>
        rw [hsplit] at heq
        obtain ⟨rfl, rfl⟩ := Prod.mk.inj (Option.some.inj heq)
        rw [hbody, hrest]
        rfl
  · intro rest' heq
    cases body with
    | nil => exact absurd (List.cons.inj heq).1 (by decide)
    | cons c body => exact hsingle (congrArg some (List.cons.inj heq).1)

/-- A template whose first brace is closed by its last character is read as one
placeholder. -/
theorem read_single (body : Text) {p : Placeholder} (hsingle : body.head? ≠ some '{')
    (hsplit : splitBody (body ++ ['}']) = some (body, [])) (hbody : readBody body = .ok p) :
    read ('{' :: (body ++ ['}'])) = .ok [.placeholder p] := by
  have hrest : read [] = .ok [] := by rw [read]
  exact read_placeholder body hsingle hsplit hbody hrest

/-- A placeholder for the next argument, without a width and a precision, is
filled with the text of the only argument. -/
theorem fill_single {template : Text} {style : Style} {flags : Spec}
    (hread : read template = .ok [.placeholder { style, flags }])
    (hrender : x.render? hidden { flags with width := 0, precision := none } style =
      some text) :
    fill hidden names [x] template = .ok text := by
  have hlookup : lookup names [x] 0 .next = .ok (x, 1) := rfl
  have hplace : fillPlaceholder hidden names [x] 0 { style, flags } = .ok (text, 1) := by
    simp only [fillPlaceholder, count, bind, Except.bind, hlookup, Option.getD_none, hrender]
  simp only [fill, hread, fillFrom, hplace, bind, Except.bind, pure, Except.pure,
    List.append_nil]

/-- The template `{}`, which asks for the plain text of its argument. -/
def plain : String := "\x7b\x7d"

/-- The template `{:?}`, which asks for the text that shows the structure of its
argument, or `{:#?}`, which asks for the same in the expanded layout. -/
def inspecting (expanded : Bool) : String :=
  if expanded then "\x7b:#?\x7d" else "\x7b:?\x7d"

/-- The placeholder without flags. -/
theorem fill_plain (hrender : x.render? hidden {} .plain = some text) :
    fill hidden names [x] plain.toList = .ok text := by
  have hread : read plain.toList = .ok [.placeholder {}] :=
    read_single [] (by decide) (by decide) rfl
  exact fill_single hread hrender

/-- The placeholders that show a value's structure. -/
theorem fill_inspecting {expanded : Bool}
    (hrender : x.render? hidden { alternate := expanded } (.inspect none) = some text) :
    fill hidden names [x] (inspecting expanded).toList = .ok text := by
  have hread : read (inspecting expanded).toList =
      .ok [.placeholder { style := .inspect none, flags := { alternate := expanded } }] := by
    cases expanded with
    | false => exact read_single [':', '?'] (by decide) (by decide) rfl
    | true => exact read_single [':', '#', '?'] (by decide) (by decide) rfl
  exact fill_single hread hrender

end Faults.Template
