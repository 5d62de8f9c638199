import Faults.Proofs.DecimalNumerals
import Faults.Proofs.SinglePlaceholder
import Mathlib.Data.List.TakeWhile

/-!
# Templates made of segments

Who words a message thinks of segments: texts that stand for themselves, and
places for the plain text of an argument.  Spelled out, a template doubles the
braces of the texts, and braces stand side by side that have nothing to do
with each other, as in `{{{}}}`, a place between a brace and
another.  This file shows that nothing is mistaken: a template that spells segments
is read as these segments, and filled with the texts of the arguments to
which its places refer.

* `Template.read_template` — reading takes the spelling apart as it was put
  together;
* `Segment.position?` — to which argument a place refers, told from the
  segments in front of it and not from a counter;
* `Segment.wording` — the message that is meant: the literal texts and the texts
  of the arguments in a row;
* `Template.fill_template` — filling the spelled template yields that message.
-/

namespace Faults

/-- How many arguments a reference takes as the next one. -/
def Reference.takes : Reference → Nat
  | next => 1
  | _ => 0

/-- The position of the argument that a reference means when so many have been taken. -/
def Reference.position? (names : List String) (taken : Nat) : Reference → Option Nat
  | next => some taken
  | index i => some i
  | name s => names.idxOf? s

/-- A segment of a template. -/
inductive Segment where
  /-- A text that stands for itself. -/
  | literal (s : String)
  /-- A place for the plain text of an argument. -/
  | place (argument : Reference)
  deriving DecidableEq, Repr

namespace Segment

/-- The segment as it is written in a template. -/
def spell : Segment → Text
  | literal s => s.toList.flatMap Piece.spellLiteral
  | place argument => Piece.spellReference argument

/-- The template that spells segments. -/
def template (segments : List Segment) : String :=
  String.ofList (segments.flatMap spell)

/-- The segment as it is read. -/
def pieces : Segment → List Piece
  | literal s => s.toList.map .literal
  | place argument => [.plain argument]

/-- The position of the argument to which a place refers: the k-th place for the
next argument refers to argument k, whatever other places stand in front of it. -/
def position? (names : List String) (before : List Segment) : Reference → Option Nat
  | .next => some (before.count (.place .next))
  | .index i => some i
  | .name s => names.idxOf? s

/-- The text that a segment stands for, behind others. -/
def text (names : List String) (texts : List Text) (before : List Segment) : Segment → Text
  | literal s => s.toList
  | place argument => ((position? names before argument).bind (texts[·]?)).getD []

/-- The message that segments stand for, given the texts of the arguments. -/
def wording (names : List String) (texts : List Text) (segments : List Segment) : Text :=
  (segments.mapIdx fun j segment => segment.text names texts (segments.take j)).flatten

end Segment

/-- A text that can stand in a placeholder as a name. -/
structure IsName (s : String) : Prop where
  nonempty : s.toList ≠ []
  isNameChar : s.toList.all Template.isNameChar
  head : s.toList.head?.all fun c => !c.isDigit

instance (s : String) : Decidable (IsName s) :=
  decidable_of_iff (s.toList ≠ [] ∧ s.toList.all Template.isNameChar ∧
      s.toList.head?.all fun c => !c.isDigit)
    ⟨fun h => ⟨h.1, h.2.1, h.2.2⟩, fun h => ⟨h.nonempty, h.isNameChar, h.head⟩⟩

/-- A reference that can be written in a placeholder. -/
def Reference.IsWritable : Reference → Prop
  | next => True
  | index _ => True
  | name s => IsName s

instance : DecidablePred Reference.IsWritable
  | .next => inferInstanceAs (Decidable True)
  | .index _ => inferInstanceAs (Decidable True)
  | .name s => inferInstanceAs (Decidable (IsName s))

namespace Segment

/-- Behind others, a segment refers to one of so many arguments if it is a place. -/
def Refers (names : List String) (arguments : Nat) (before : List Segment) : Segment → Prop
  | literal _ => True
  | place argument =>
    argument.IsWritable ∧ ∃ i ∈ position? names before argument, i < arguments

instance (names : List String) (arguments : Nat) (before : List Segment) :
    DecidablePred (Refers names arguments before)
  | literal _ => inferInstanceAs (Decidable True)
  | place argument =>
    inferInstanceAs (Decidable (argument.IsWritable ∧
      ∃ i ∈ position? names before argument, i < arguments))

/-- Every place among segments refers to one of so many arguments. -/
def AllRefer (names : List String) (arguments : Nat) (segments : List Segment) : Prop :=
  ∀ (j : Nat) (hj : j < segments.length), segments[j].Refers names arguments (segments.take j)

instance (names : List String) (arguments : Nat) (segments : List Segment) :
    Decidable (AllRefer names arguments segments) :=
  inferInstanceAs (Decidable (∀ (j : Nat) (hj : j < segments.length),
    segments[j].Refers names arguments (segments.take j)))

end Segment

namespace Template

/-! ## Reading -/

theorem read_spellLiteral {c : Char} {rest : Text} {ps : List Piece} (h : read rest = .ok ps) :
    read (Piece.spellLiteral c ++ rest) = .ok (.literal c :: ps) := by
  by_cases hopen : c = '{'
  · subst hopen
    show read ('{' :: '{' :: rest) = _
    rw [read, h]
    rfl
  · by_cases hclose : c = '}'
    · subst hclose
      show read ('}' :: '}' :: rest) = _
      rw [read, h]
      rfl
    · have hspell : Piece.spellLiteral c = [c] := by simp [Piece.spellLiteral, hopen, hclose]
      rw [hspell]
      show read (c :: rest) = _
      rw [read, h]
      · rfl
      -- All other patterns of the reader begin with a brace.
      all_goals intros; simp_all

/-- A body without colons and closing braces ends at the first closing brace. -/
theorem splitBody_of_notMem {body : Text} (hcolon : ':' ∉ body) (hbrace : '}' ∉ body)
    (rest : Text) : splitBody (body ++ '}' :: rest) = some (body, rest) := by
  have hhead : ∀ c ∈ body, (c != ':' && c != '}') = true := by
    intro c hc
    have h1 : c ≠ ':' := fun h => hcolon (h ▸ hc)
    have h2 : c ≠ '}' := fun h => hbrace (h ▸ hc)
    simp [h1, h2]
  have hinside : ∀ c ∈ body, (c != '}') = true := by
    intro c hc
    have h2 : c ≠ '}' := fun h => hbrace (h ▸ hc)
    simp [h2]
  have hlength : openLength (body ++ '}' :: rest) = 0 := by
    simp only [openLength, Text.splitWhile, List.takeWhile_append_of_pos hhead,
      List.dropWhile_append_of_pos hhead]
    rfl
  simp only [splitBody, hlength, List.drop_zero, List.take_zero, List.nil_append,
    Text.splitWhile, List.takeWhile_append_of_pos hinside, List.dropWhile_append_of_pos hinside]
  simp

/-- A body without a colon is a reference and nothing else. -/
theorem readBody_of_notMem {body : Text} {argument : Reference} (hcolon : ':' ∉ body)
    (hreference : reference? body = some argument) : readBody body = .ok { argument } := by
  have hall : ∀ c ∈ body, (c != ':') = true := by
    intro c hc
    have h1 : c ≠ ':' := fun h => hcolon (h ▸ hc)
    simp [h1]
  have hsplit : Text.splitWhile (· != ':') body = (body, []) := by
    rw [Text.splitWhile, List.takeWhile_eq_self_iff.mpr hall, List.dropWhile_eq_nil_iff.mpr hall]
  have hplaceholder : placeholder? body [] = some { argument } := by
    rw [placeholder?, hreference]
    rfl
  simp only [readBody, hsplit, hplaceholder]

theorem isNameChar_of_isDigit {c : Char} (h : c.isDigit) : isNameChar c := by
  simp [isNameChar, Char.isAlphanum, h]

/-- No sign of a placeholder is part of a name or a number. -/
theorem notMem_of_isNameChar {text : Text} (h : ∀ c ∈ text, isNameChar c) :
    ':' ∉ text ∧ '}' ∉ text ∧ '{' ∉ text := by
  refine ⟨fun hc => ?_, fun hc => ?_, fun hc => ?_⟩
  · exact absurd (h _ hc) (by decide)
  · exact absurd (h _ hc) (by decide)
  · exact absurd (h _ hc) (by decide)

/-- A reference is made of digits or of the characters of names. -/
theorem isNameChar_of_mem_text {argument : Reference} (h : argument.IsWritable) :
    ∀ c ∈ argument.text, isNameChar c := by
  intro c hc
  cases argument with
  | next => exact absurd hc List.not_mem_nil
  | index i => exact isNameChar_of_isDigit (Numeral.isDigit_of_mem_natural hc)
  | name s => exact List.all_eq_true.mp h.isNameChar c hc

/-- A reference is read as it was written. -/
theorem reference?_text {argument : Reference} (h : argument.IsWritable) :
    reference? argument.text = some argument := by
  cases argument with
  | next => rfl
  | index i =>
      have hdigits : (Numeral.natural i).all Char.isDigit = true :=
        List.all_eq_true.mpr fun c hc => Numeral.isDigit_of_mem_natural hc
      show reference? (Numeral.natural i) = _
      rw [reference?, if_neg (Numeral.natural_ne_nil i), if_pos hdigits,
        Numeral.ofDigitChars_natural]
  | name s =>
      show reference? s.toList = _
      have hword : ¬ s.toList.all Char.isDigit = true := by
        intro hdigits
        have hhead := h.head
        cases hs : s.toList with
        | nil => exact h.nonempty hs
        | cons c rest =>
            rw [hs] at hdigits hhead
            have hc : c.isDigit = true := List.all_eq_true.mp hdigits c List.mem_cons_self
            simp [hc] at hhead
      have hname : s.toList.all isNameChar = true ∧
          s.toList.head?.all (fun c => !c.isDigit) = true :=
        ⟨h.isNameChar, h.head⟩
      rw [reference?, if_neg h.nonempty, if_neg hword, if_pos hname, String.ofList_toList]

/-- A place is read as the placeholder of its reference, whatever follows. -/
theorem read_spellReference {argument : Reference} (h : argument.IsWritable) {rest : Text}
    {ps : List Piece} (hrest : read rest = .ok ps) :
    read (Piece.spellReference argument ++ rest) = .ok (.plain argument :: ps) := by
  obtain ⟨hcolon, hclose, hopen⟩ := notMem_of_isNameChar (isNameChar_of_mem_text h)
  have hsingle : argument.text.head? ≠ some '{' := by
    intro hhead
    exact hopen (List.mem_of_head? hhead)
  have hread := read_placeholder argument.text hsingle (splitBody_of_notMem hcolon hclose rest)
    (readBody_of_notMem hcolon (reference?_text h)) hrest
  simpa [Piece.spellReference, Piece.plain] using hread

theorem read_spell {segment : Segment} {rest : Text} {ps : List Piece}
    (h : ∀ argument, segment = .place argument → argument.IsWritable)
    (hrest : read rest = .ok ps) :
    read (segment.spell ++ rest) = .ok (segment.pieces ++ ps) := by
  cases segment with
  | place argument => exact read_spellReference (h argument rfl) hrest
  | literal s =>
      show read (s.toList.flatMap Piece.spellLiteral ++ rest) = .ok (s.toList.map .literal ++ ps)
      induction s.toList with
      | nil => exact hrest
      | cons c cs ih =>
          rw [List.flatMap_cons, List.append_assoc]
          exact read_spellLiteral ih

/-- **Nothing is mistaken for something else.**  A template that spells segments is
read as these segments. -/
theorem read_template {segments : List Segment}
    (h : ∀ argument, .place argument ∈ segments → argument.IsWritable) :
    read (Segment.template segments).toList = .ok (segments.flatMap Segment.pieces) := by
  rw [Segment.template, String.toList_ofList]
  induction segments with
  | nil => rw [List.flatMap_nil, List.flatMap_nil, read]
  | cons segment segments ih =>
      have hrest := ih fun argument hmem => h argument (List.mem_cons_of_mem segment hmem)
      rw [List.flatMap_cons, List.flatMap_cons]
      apply read_spell _ hrest
      rintro argument rfl
      exact h argument List.mem_cons_self

/-! ## Filling -/

variable {hidden : Char → Bool} {names : List String} {arguments : List Argument}
variable {texts : List Text}

/-- In the plain style it does not matter which characters are hidden. -/
theorem render?_plain_eq_display? (x : Argument) : x.render? hidden {} .plain = x.display? := by
  cases x with
  | option x => cases x <;> rfl
  | list xs => rfl
  | scalar x => cases x <;> rfl

/-- Arguments that have texts have them position by position. -/
theorem exists_text_of_lt (htexts : arguments.map Argument.display? = texts.map some) {i : Nat}
    (hlt : i < arguments.length) :
    ∃ x text, arguments[i]? = some x ∧ texts[i]? = some text ∧ x.display? = some text := by
  have hx : arguments[i]? = some arguments[i] := List.getElem?_eq_getElem hlt
  have htext : (arguments.map Argument.display?)[i]? = (texts.map some)[i]? := by rw [htexts]
  rw [List.getElem?_map, List.getElem?_map, hx, Option.map_some] at htext
  obtain ⟨text, hi, hdisplay⟩ := Option.map_eq_some_iff.mp htext.symm
  exact ⟨arguments[i], text, hx, hi, hdisplay.symm⟩

/-- A reference takes the argument at its position, and with it the next one if it asks for
that. -/
theorem lookup_of_reference {next : Nat} {argument : Reference} {i : Nat} {x : Argument}
    (hposition : argument.position? names next = some i) (hx : arguments[i]? = some x) :
    lookup names arguments next argument = .ok (x, next + argument.takes) := by
  cases argument with
  | next =>
      obtain rfl := Option.some.inj hposition
      simp only [lookup, Option.bind_some, hx]
      rfl
  | index j =>
      obtain rfl := Option.some.inj hposition
      simp only [lookup, Option.bind_some, hx]
      rfl
  | name s =>
      have hname : names.idxOf? s = some i := hposition
      simp only [lookup, hname, Option.bind_some, hx]
      rfl

/-- For places, the counter is the number of places for the next argument in front. -/
theorem lookup_of_position? {before : List Segment} {argument : Reference} {i : Nat}
    {x : Argument} (hposition : Segment.position? names before argument = some i)
    (hx : arguments[i]? = some x) :
    lookup names arguments (before.count (Segment.place .next)) argument =
      .ok (x, (before ++ [Segment.place argument]).count (Segment.place .next)) := by
  have hreference : argument.position? names (before.count (.place .next)) = some i := by
    cases argument <;> exact hposition
  have htakes : (before ++ [Segment.place argument]).count (.place .next) =
      before.count (.place .next) + argument.takes := by
    cases argument <;> simp [List.count_append, Reference.takes]
  rw [htakes]
  exact lookup_of_reference hreference hx

theorem fillPlaceholder_of_position? {before : List Segment} {argument : Reference} {i : Nat}
    {x : Argument} {text : Text} (hposition : Segment.position? names before argument = some i)
    (hx : arguments[i]? = some x) (htext : x.display? = some text) :
    fillPlaceholder hidden names arguments (before.count (Segment.place .next)) { argument } =
      .ok (text, (before ++ [Segment.place argument]).count (Segment.place .next)) := by
  have hrender : x.render? hidden {} .plain = some text := by
    rw [render?_plain_eq_display?, htext]
  simp only [fillPlaceholder, count, bind, Except.bind, lookup_of_position? hposition hx,
    Option.getD_none, hrender]

theorem fillFrom_literals (next : Nat) (cs : Text) {ps : List Piece} {text : Text}
    (h : fillFrom hidden names arguments next ps = .ok text) :
    fillFrom hidden names arguments next (cs.map .literal ++ ps) = .ok (cs ++ text) := by
  induction cs with
  | nil => exact h
  | cons c cs ih =>
      rw [List.map_cons, List.cons_append, fillFrom, ih]
      rfl

/-- A segment behind others is filled with the text that it stands for.  The number
of arguments taken as the next one is the number of places for it in front. -/
theorem fillFrom_segment (htexts : arguments.map Argument.display? = texts.map some)
    {before : List Segment} {segment : Segment}
    (hrefers : segment.Refers names arguments.length before) {ps : List Piece} {others : Text}
    (h : fillFrom hidden names arguments ((before ++ [segment]).count (Segment.place .next)) ps =
      .ok others) :
    fillFrom hidden names arguments (before.count (Segment.place .next)) (segment.pieces ++ ps) =
      .ok (segment.text names texts before ++ others) := by
  cases segment with
  | literal s =>
      apply fillFrom_literals
      simpa [List.count_append] using h
  | place argument =>
      obtain ⟨-, i, hmem, hlt⟩ := hrefers
      have hposition : Segment.position? names before argument = some i := hmem
      obtain ⟨x, text, hx, hi, hdisplay⟩ := exists_text_of_lt htexts hlt
      have htext : (Segment.place argument).text names texts before = text := by
        simp [Segment.text, hposition, hi]
      have hplace : fillPlaceholder hidden names arguments (before.count (Segment.place .next))
          { argument } =
          .ok (text, (before ++ [Segment.place argument]).count (Segment.place .next)) :=
        fillPlaceholder_of_position? hposition hx hdisplay
      show fillFrom _ _ _ _ (.placeholder { argument } :: ps) = _
      rw [htext]
      simp only [fillFrom, hplace, bind, Except.bind, h, pure, Except.pure]

/-- Segments behind others are filled with the texts that they stand for. -/
theorem fillFrom_pieces (htexts : arguments.map Argument.display? = texts.map some)
    {before segments : List Segment}
    (h : ∀ (j : Nat) (hj : j < segments.length),
      segments[j].Refers names arguments.length (before ++ segments.take j)) :
    fillFrom hidden names arguments (before.count (Segment.place .next))
      (segments.flatMap Segment.pieces) =
      .ok (segments.mapIdx fun j segment =>
        segment.text names texts (before ++ segments.take j)).flatten := by
  -- What stands in front grows with each segment, and with it the number of
  -- arguments that have been taken as the next one.
  induction segments generalizing before with
  | nil => rfl
  | cons segment segments ih =>
      have hfirst : segment.Refers names arguments.length before := by
        simpa using h 0 (Nat.succ_pos _)
      have hothers : ∀ (j : Nat) (hj : j < segments.length),
          segments[j].Refers names arguments.length (before ++ [segment] ++ segments.take j) := by
        intro j hj
        simpa using h (j + 1) (Nat.succ_lt_succ hj)
      rw [List.flatMap_cons, fillFrom_segment htexts hfirst (ih hothers)]
      simp [List.mapIdx_cons]

/-- **The message is the one that was meant.**  A template that spells segments
is filled with the literal texts and with the texts of the arguments to which
its places refer. -/
theorem fill_template (htexts : arguments.map Argument.display? = texts.map some)
    {segments : List Segment} (h : Segment.AllRefer names arguments.length segments) :
    fill hidden names arguments (Segment.template segments).toList =
      .ok (Segment.wording names texts segments) := by
  have hwritable : ∀ argument, Segment.place argument ∈ segments → argument.IsWritable := by
    intro argument hmem
    obtain ⟨j, hj, hplace⟩ := List.getElem_of_mem hmem
    have hrefers := h j hj
    rw [hplace] at hrefers
    exact hrefers.1
  rw [fill, read_template hwritable]
  exact @fillFrom_pieces hidden names arguments texts htexts [] segments h

end Template

end Faults
