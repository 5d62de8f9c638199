import Faults.Proofs.TemplateSegments

/-!
# Placeholders as they are written

A `Directive` is a placeholder as somebody writes it between two braces: a
reference, and behind a colon a fill and an alignment, a sign, flags, a width, a
precision and a style, each of which may be left out.  This file shows that the
reader takes a directive for what it says, whichever parts it has and whatever
stands behind it.

The difficulty is that the parts have no marks of their own.  A fill may be any
character, even the brace that would close the directive; a zero may be a flag,
a width or the position of a width; and a name may stand where a style could.
Each part is told from the next one by how that begins (`Template.EndsCount`)
or by which characters can occur in it at all (`Template.isTailChar`).

* `Template.readWidth_spell`, `Template.readPrecision_spell`, `Template.readAlign_spec` — the
  parts, each with what stands behind it;
* `Template.splitBody_body` — the brace that closes a directive is found, whatever its fill;
* `Template.read_directive` — a directive is read as its placeholder.
-/

namespace Faults

/-! ## Spelling -/

/-- A sign in a specification.  A minus sign asks for nothing. -/
inductive SignMark where
  | plus
  | minus
  deriving DecidableEq, Repr

def SignMark.mark : SignMark → Char
  | plus => '+'
  | minus => '-'

def Align.mark : Align → Char
  | left => '<'
  | centre => '^'
  | right => '>'

def Style.spell : Style → Text
  | plain => []
  | inspect none => ['?']
  | inspect (some .lower) => ['x', '?']
  | inspect (some .upper) => ['X', '?']
  | hex .lower => ['x']
  | hex .upper => ['X']
  | octal => ['o']
  | binary => ['b']
  | exponent .lower => ['e']
  | exponent .upper => ['E']

/-- A width as it is written; the number comes from an argument behind a `$`. -/
def Count.spell : Count → Text
  | implied => []
  | exactly n => Numeral.natural n
  | taken argument => argument.text ++ ['$']

/-- A precision as it is written: behind a point, and with a star for the next argument. -/
def Count.spellPrecision : Count → Text
  | implied => []
  | taken .next => ['.', '*']
  | count => '.' :: count.spell

/-- A placeholder as it is written. -/
structure Directive where
  argument : Reference := .next
  /-- An alignment, behind a fill or without one. -/
  align : Option (Option Char × Align) := none
  sign : Option SignMark := none
  alternate : Bool := false
  zeroPad : Bool := false
  width : Count := .implied
  precision : Count := .implied
  style : Style := .plain
  deriving DecidableEq, Repr

namespace Directive

variable (d : Directive)

/-- What stands behind the flags. -/
def counts : Text :=
  (if d.zeroPad then ['0'] else []) ++ d.width.spell ++
    (d.precision.spellPrecision ++ d.style.spell)

/-- What stands behind the alignment. -/
def tail : Text :=
  d.sign.toList.map SignMark.mark ++ ((if d.alternate then ['#'] else []) ++ d.counts)

/-- What stands behind the colon. -/
def spec : Text :=
  match d.align with
  | none => d.tail
  | some (fill, align) => fill.toList ++ align.mark :: d.tail

/-- What stands between the braces.  The colon is left out with all that follows it. -/
def body : Text :=
  d.argument.text ++ if d.spec = [] then [] else ':' :: d.spec

def text : Text :=
  '{' :: (d.body ++ ['}'])

/-- The flags that are asked for. -/
def flags : Spec where
  fill := (d.align.bind Prod.fst).getD ' '
  align := d.align.map Prod.snd
  plus := d.sign = some .plus
  alternate := d.alternate
  zeroPad := d.zeroPad

/-- The placeholder that is meant. -/
def placeholder : Placeholder where
  argument := d.argument
  style := d.style
  flags := d.flags
  width := d.width
  precision := d.precision

end Directive

/-- A number or a reference that can be written where a width stands. -/
def Count.IsWritable (zeroPad : Bool) : Count → Prop
  | implied => True
  -- Without the flag in front of it, a zero would be taken for the flag.
  | exactly n => zeroPad = true ∨ n ≠ 0
  | taken argument => argument.IsWritable ∧ argument ≠ .next

instance (zeroPad : Bool) : DecidablePred (Count.IsWritable zeroPad)
  | .implied => inferInstanceAs (Decidable True)
  | .exactly n => inferInstanceAs (Decidable (zeroPad = true ∨ n ≠ 0))
  | .taken argument => inferInstanceAs (Decidable (argument.IsWritable ∧ argument ≠ .next))

/-- A reference that can be written where a precision stands. -/
def Count.IsWritablePrecision : Count → Prop
  | taken argument => argument.IsWritable
  | _ => True

instance : DecidablePred Count.IsWritablePrecision
  | .implied => inferInstanceAs (Decidable True)
  | .exactly _ => inferInstanceAs (Decidable True)
  | .taken argument => inferInstanceAs (Decidable argument.IsWritable)

/-- The parts of a directive can be written where they stand. -/
structure Directive.IsWritable (d : Directive) : Prop where
  argument : d.argument.IsWritable
  width : d.width.IsWritable d.zeroPad
  precision : d.precision.IsWritablePrecision

instance (d : Directive) : Decidable d.IsWritable :=
  decidable_of_iff (d.argument.IsWritable ∧ d.width.IsWritable d.zeroPad ∧
      d.precision.IsWritablePrecision)
    ⟨fun h => ⟨h.1, h.2.1, h.2.2⟩, fun h => ⟨h.argument, h.width, h.precision⟩⟩

namespace Template

/-! ## Reading counts -/

/-- A text that ends a count which stands in front of it, and holds none itself:
neither a digit nor a name with a `$` comes first. -/
structure EndsCount (text : Text) : Prop where
  digit : text.head?.all fun c => !c.isDigit
  name : (text.dropWhile isNameChar).head? ≠ some '$'

theorem EndsCount.head?_ne_dollar {text : Text} (h : EndsCount text) :
    text.head? ≠ some '$' := by
  intro hhead
  obtain ⟨rest, rfl⟩ := List.head?_eq_some_iff.mp hhead
  exact h.name rfl

theorem EndsCount.takeWhile_isDigit {text : Text} (h : EndsCount text) :
    text.takeWhile Char.isDigit = [] := by
  have hdigit := h.digit
  cases text with
  | nil => rfl
  | cons c rest => exact List.takeWhile_cons_of_neg (by simpa using hdigit)

theorem EndsCount.dropWhile_isDigit {text : Text} (h : EndsCount text) :
    text.dropWhile Char.isDigit = text := by
  have hsplit := List.takeWhile_append_dropWhile (p := Char.isDigit) (l := text)
  rwa [h.takeWhile_isDigit, List.nil_append] at hsplit

/-- The end of a directive: a style, or a style behind a point and anything else. -/
theorem endsCount_style (style : Style) : EndsCount style.spell := by
  rcases style with _ | (_ | _ | _) | (_ | _) | _ | _ | (_ | _) <;> exact ⟨by decide, by decide⟩

theorem endsCount_point (text : Text) : EndsCount ('.' :: text) :=
  ⟨rfl, by simp [List.dropWhile_cons_of_neg, isNameChar]⟩

theorem endsCount_precision (precision : Count) (style : Style) :
    EndsCount (precision.spellPrecision ++ style.spell) := by
  rcases precision with _ | n | (_ | i | s)
  · exact endsCount_style style
  · exact endsCount_point _
  · exact endsCount_point _
  · exact endsCount_point _
  · exact endsCount_point _

/-- Without a count in front, nothing is read. -/
theorem readCount_of_endsCount {text : Text} (h : EndsCount text) :
    readCount text = (.implied, text) := by
  rw [readCount, Text.splitWhile, h.takeWhile_isDigit]
  simp only [Text.splitWhile]
  split
  · next name rest heq =>
      have hdollar := congrArg (List.head? ∘ Prod.snd) heq
      exact absurd hdollar h.name
  · rfl

/-- Digits are a number, or the position of an argument if a `$` stands behind them. -/
theorem readCount_natural (n : Nat) {text : Text} (h : EndsCount text) :
    readCount (Numeral.natural n ++ text) = (.exactly n, text) := by
  have hdigits : ∀ c ∈ Numeral.natural n, c.isDigit = true :=
    fun c hc => Numeral.isDigit_of_mem_natural hc
  have hsplit : (Numeral.natural n ++ text).splitWhile Char.isDigit =
      (Numeral.natural n, text) := by
    rw [Text.splitWhile, List.takeWhile_append_of_pos hdigits,
      List.dropWhile_append_of_pos hdigits, h.takeWhile_isDigit, h.dropWhile_isDigit,
      List.append_nil]
  rw [readCount, hsplit]
  split
  · next heq => exact absurd (Prod.mk.inj heq).1 (Numeral.natural_ne_nil n)
  · next heq =>
      have hhead := congrArg (List.head? ∘ Prod.snd) heq
      exact absurd hhead h.head?_ne_dollar
  · next heq =>
      obtain ⟨rfl, rfl⟩ := Prod.mk.inj heq
      rw [Numeral.ofDigitChars_natural]

theorem readCount_taken {argument : Reference} (h : argument.IsWritable)
    (hne : argument ≠ .next) (text : Text) :
    readCount (argument.text ++ '$' :: text) = (.taken argument, text) := by
  cases argument with
  | next => exact absurd rfl hne
  | index i =>
      have hdigits : ∀ c ∈ Numeral.natural i, c.isDigit = true :=
        fun c hc => Numeral.isDigit_of_mem_natural hc
      have hsplit : (Numeral.natural i ++ '$' :: text).splitWhile Char.isDigit =
          (Numeral.natural i, '$' :: text) := by
        rw [Text.splitWhile, List.takeWhile_append_of_pos hdigits,
          List.dropWhile_append_of_pos hdigits]
        simp
      show readCount (Numeral.natural i ++ '$' :: text) = _
      rw [readCount, hsplit]
      split
      · next heq => exact absurd (Prod.mk.inj heq).1 (Numeral.natural_ne_nil i)
      · next heq =>
          obtain ⟨rfl, hrest⟩ := Prod.mk.inj heq
          obtain rfl := (List.cons.inj hrest).2
          rw [Numeral.ofDigitChars_natural]
      · next hother heq =>
          obtain ⟨-, rfl⟩ := Prod.mk.inj heq
          exact (hother text rfl).elim
  | name s =>
      have hchars : ∀ c ∈ s.toList, isNameChar c = true :=
        fun c hc => List.all_eq_true.mp h.isNameChar c hc
      have hnodigit : (s.toList ++ '$' :: text).takeWhile Char.isDigit = [] := by
        have hhead := h.head
        cases hs : s.toList with
        | nil => exact absurd hs h.nonempty
        | cons c rest =>
            rw [hs] at hhead
            exact List.takeWhile_cons_of_neg (by simpa using hhead)
      have hsplit : Text.splitWhile isNameChar (s.toList ++ '$' :: text) =
          (s.toList, '$' :: text) := by
        rw [Text.splitWhile, List.takeWhile_append_of_pos hchars,
          List.dropWhile_append_of_pos hchars]
        simp [isNameChar]
      show readCount (s.toList ++ '$' :: text) = _
      rw [readCount, Text.splitWhile, hnodigit]
      simp only [hsplit, if_neg h.nonempty, String.ofList_toList]

/-- A count that can be written is read back, with or without a zero flag in front. -/
theorem readCount_spell {count : Count} (h : count.IsWritable true) {text : Text}
    (htext : EndsCount text) : readCount (count.spell ++ text) = (count, text) := by
  cases count with
  | implied => exact readCount_of_endsCount htext
  | exactly n => exact readCount_natural n htext
  | taken argument =>
      show readCount (argument.text ++ ['$'] ++ text) = _
      rw [List.append_assoc]
      exact readCount_taken h.1 h.2 text

/-- What begins with the characters of a name begins with no other character. -/
theorem head?_append_ne {chars : Text} (hne : chars ≠ []) (hall : ∀ c ∈ chars, isNameChar c)
    {c : Char} (hc : isNameChar c = false) (behind : Text) :
    (chars ++ behind).head? ≠ some c := by
  rw [List.head?_append_of_ne_nil _ hne]
  intro hhead
  have hname := hall c (List.mem_of_head? hhead)
  rw [hc] at hname
  exact absurd hname (by decide)

/-- A written count begins with a digit or a name, if it is not left out. -/
theorem head?_spell_ne {count : Count} (h : count.IsWritable true) {c : Char}
    (hc : isNameChar c = false) {text : Text} (htext : text.head? ≠ some c) :
    (count.spell ++ text).head? ≠ some c := by
  rcases count with _ | n | argument
  · exact htext
  · exact head?_append_ne (Numeral.natural_ne_nil n)
      (fun c hc => isNameChar_of_isDigit (Numeral.isDigit_of_mem_natural hc)) hc text
  · show (argument.text ++ ['$'] ++ text).head? ≠ some c
    rw [List.append_assoc]
    refine head?_append_ne ?_ (isNameChar_of_mem_text h.1) hc _
    cases argument with
    | next => exact absurd rfl h.2
    | index i => exact Numeral.natural_ne_nil i
    | name s => exact h.1.nonempty

/-! ## Reading widths and precisions -/

theorem readWidth_flag {text : Text} (h : text.head? ≠ some '$') :
    readWidth ('0' :: text) = ((true, (readCount text).1), (readCount text).2) := by
  rw [readWidth]
  · rfl
  · rintro rest heq
    rw [(List.cons.inj heq).2] at h
    exact h rfl

theorem readWidth_of_head?_ne {text : Text} (h : text.head? ≠ some '0') :
    readWidth text = ((false, (readCount text).1), (readCount text).2) := by
  have hflag : readFlag '0' text = (false, text) := by
    cases text with
    | nil => rfl
    | cons c rest =>
        have hc : c ≠ '0' := fun hc => h (congrArg some hc)
        exact if_neg hc
  rw [readWidth]
  · simp only [hflag]
  · rintro rest rfl
    exact h rfl

/-- The zero flag and the width are read as they were written.  A zero that stands
alone is the flag, and one in front of a `$` is a position. -/
theorem readWidth_spell {zeroPad : Bool} {width : Count} (h : width.IsWritable zeroPad)
    {text : Text} (htext : EndsCount text) :
    readWidth ((if zeroPad then ['0'] else []) ++ width.spell ++ text) =
      ((zeroPad, width), text) := by
  have hwritable : width.IsWritable true := by
    cases width with
    | implied => trivial
    | exactly n => exact Or.inl rfl
    | taken argument => exact h
  have hcount := readCount_spell hwritable htext
  cases zeroPad with
  | true =>
      show readWidth ('0' :: (width.spell ++ text)) = _
      have hdollar := head?_spell_ne hwritable (by decide) htext.head?_ne_dollar
      rw [readWidth_flag hdollar, hcount]
  | false =>
      show readWidth (width.spell ++ text) = _
      have hother (hhead : (width.spell ++ text).head? ≠ some '0') :
          readWidth (width.spell ++ text) = ((false, width), text) := by
        rw [readWidth_of_head?_ne hhead, hcount]
      rcases width with _ | n | (_ | i | s)
      · apply hother
        intro hhead
        have hdigit := htext.digit
        rw [show text.head? = some '0' from hhead] at hdigit
        exact absurd hdigit (by decide)
      · apply hother
        intro hhead
        have hfirst : (Numeral.natural n ++ text).head? = some '0' := hhead
        rw [List.head?_append_of_ne_nil _ (Numeral.natural_ne_nil n)] at hfirst
        exact h.resolve_left (by decide) (Numeral.eq_zero_of_head?_natural hfirst)
      · exact absurd rfl hwritable.2
      · cases i with
        | zero => rfl
        | succ i =>
            apply hother
            intro hhead
            have hfirst : (Numeral.natural (i + 1) ++ ['$'] ++ text).head? = some '0' := hhead
            rw [List.append_assoc,
              List.head?_append_of_ne_nil _ (Numeral.natural_ne_nil _)] at hfirst
            exact Nat.succ_ne_zero i (Numeral.eq_zero_of_head?_natural hfirst)
      · apply hother
        intro hhead
        have hfirst : (s.toList ++ ['$'] ++ text).head? = some '0' := hhead
        rw [List.append_assoc,
          List.head?_append_of_ne_nil _ hwritable.1.nonempty] at hfirst
        have hname := hwritable.1.head
        rw [hfirst] at hname
        exact absurd hname (by decide)

/-- Behind a point, anything but a star is a count. -/
theorem readPrecision_point {text : Text} (h : text.head? ≠ some '*') :
    readPrecision ('.' :: text) = readCount text := by
  rw [readPrecision]
  rintro rest rfl
  exact h rfl

theorem readPrecision_spell {precision : Count} (h : precision.IsWritablePrecision)
    (style : Style) :
    readPrecision (precision.spellPrecision ++ style.spell) = (precision, style.spell) := by
  have hstyle : style.spell.head? ≠ some '*' := by
    rcases style with _ | (_ | _ | _) | (_ | _) | _ | _ | (_ | _) <;> decide
  have hpoint {count : Count} (hcount : count.IsWritable true) :
      readPrecision ('.' :: (count.spell ++ style.spell)) = (count, style.spell) := by
    rw [readPrecision_point (head?_spell_ne hcount (by decide) hstyle),
      readCount_spell hcount (endsCount_style style)]
  rcases precision with _ | n | (_ | i | s)
  · rcases style with _ | (_ | _ | _) | (_ | _) | _ | _ | (_ | _) <;> rfl
  · exact hpoint (Or.inl rfl)
  · rfl
  · exact hpoint ⟨trivial, nofun⟩
  · exact hpoint ⟨h, nofun⟩

/-! ## Reading flags and alignments -/

theorem readFlag_spell {flag : Char} (present : Bool) {text : Text}
    (h : text.head? ≠ some flag) :
    readFlag flag ((if present then [flag] else []) ++ text) = (present, text) := by
  cases present with
  | true => exact if_pos rfl
  | false =>
      cases text with
      | nil => rfl
      | cons c rest =>
          have hc : c ≠ flag := fun hc => h (congrArg some hc)
          exact if_neg hc

theorem readSign_spell (sign : Option SignMark) {text : Text} (hplus : text.head? ≠ some '+')
    (hminus : text.head? ≠ some '-') :
    readSign (sign.toList.map SignMark.mark ++ text) = (decide (sign = some .plus), text) := by
  rcases sign with _ | (_ | _)
  · show readSign text = (false, text)
    unfold readSign
    split
    · exact absurd rfl hplus
    · exact absurd rfl hminus
    · rfl
  · rfl
  · rfl

theorem ofChar?_mark (align : Align) : Align.ofChar? align.mark = some align := by
  cases align <;> rfl

/-- Without an alignment in front, nothing is read. -/
theorem readAlign_of_forall {text : Text} (h : ∀ c ∈ text, Align.ofChar? c = none) :
    readAlign text = ((' ', none), text) := by
  rcases text with _ | ⟨c, _ | ⟨d, rest⟩⟩
  · rfl
  · simp only [readAlign, h c List.mem_cons_self]
  · have hd := h d (List.mem_cons_of_mem c List.mem_cons_self)
    simp only [readAlign, h c List.mem_cons_self, hd]

theorem readAlign_fill (fill : Char) (align : Align) (text : Text) :
    readAlign (fill :: align.mark :: text) = ((fill, some align), text) := by
  simp only [readAlign, ofChar?_mark]

theorem readAlign_mark (align : Align) {text : Text}
    (h : ∀ c ∈ text, Align.ofChar? c = none) :
    readAlign (align.mark :: text) = ((' ', some align), text) := by
  cases text with
  | nil => simp only [readAlign, ofChar?_mark]
  | cons d rest => simp only [readAlign, ofChar?_mark, h d List.mem_cons_self]

/-! ## Reading directives -/

/-- The characters that can stand behind the flags. -/
def isCountChar (c : Char) : Bool :=
  isNameChar c || c ∈ ['$', '.', '*', '?']

/-- The characters that can stand behind the alignment. -/
def isTailChar (c : Char) : Bool :=
  isCountChar c || c ∈ ['+', '-', '#']

theorem isCountChar_of_isNameChar {c : Char} (h : isNameChar c) : isCountChar c := by
  simp [isCountChar, h]

theorem ofChar?_of_isTailChar {c : Char} (h : isTailChar c) : Align.ofChar? c = none := by
  unfold Align.ofChar?
  split
  · exact absurd h (by decide)
  · exact absurd h (by decide)
  · exact absurd h (by decide)
  · rfl

variable {d : Directive}

theorem isCountChar_of_mem_spell {count : Count} (h : count.IsWritablePrecision) {c : Char}
    (hc : c ∈ count.spell) : isCountChar c := by
  rcases count with _ | n | argument
  · exact absurd hc List.not_mem_nil
  · exact isCountChar_of_isNameChar (isNameChar_of_isDigit (Numeral.isDigit_of_mem_natural hc))
  · rcases List.mem_append.mp hc with hname | hdollar
    · exact isCountChar_of_isNameChar (isNameChar_of_mem_text h c hname)
    · rw [List.mem_singleton.mp hdollar]
      rfl

theorem isCountChar_of_mem_spellPrecision {count : Count} (h : count.IsWritablePrecision)
    {c : Char} (hc : c ∈ count.spellPrecision) : isCountChar c := by
  have hpoint (hc : c ∈ '.' :: count.spell) : isCountChar c := by
    rcases List.mem_cons.mp hc with rfl | hcount
    · rfl
    · exact isCountChar_of_mem_spell h hcount
  rcases count with _ | n | (_ | i | s)
  · exact absurd hc List.not_mem_nil
  · exact hpoint hc
  · exact List.all_eq_true.mp (by decide : ['.', '*'].all isCountChar = true) c hc
  · exact hpoint hc
  · exact hpoint hc

theorem isCountChar_of_mem_counts (hd : d.IsWritable) {c : Char} (hc : c ∈ d.counts) :
    isCountChar c := by
  have hwidth : d.width.IsWritablePrecision := by
    have h := hd.width
    cases hw : d.width with
    | implied => trivial
    | exactly n => trivial
    | taken argument =>
        rw [hw] at h
        exact h.1
  have hstyle : d.style.spell.all isCountChar = true := by
    rcases d.style with _ | (_ | _ | _) | (_ | _) | _ | _ | (_ | _) <;> decide
  simp only [Directive.counts, List.mem_append] at hc
  rcases hc with (hc | hc) | hc | hc
  · split at hc
    · rw [List.mem_singleton.mp hc]
      rfl
    · exact absurd hc List.not_mem_nil
  · exact isCountChar_of_mem_spell hwidth hc
  · exact isCountChar_of_mem_spellPrecision hd.precision hc
  · exact List.all_eq_true.mp hstyle c hc

theorem isTailChar_of_mem_tail (hd : d.IsWritable) {c : Char} (hc : c ∈ d.tail) :
    isTailChar c := by
  simp only [Directive.tail, List.mem_append, List.mem_map] at hc
  rcases hc with ⟨sign, -, rfl⟩ | hc | hc
  · cases sign <;> rfl
  · split at hc
    · rw [List.mem_singleton.mp hc]
      rfl
    · exact absurd hc List.not_mem_nil
  · simp [isTailChar, isCountChar_of_mem_counts hd hc]

theorem head?_counts_ne (hd : d.IsWritable) {c : Char} (hc : isCountChar c = false) :
    d.counts.head? ≠ some c := by
  intro hhead
  have hcount := isCountChar_of_mem_counts hd (List.mem_of_head? hhead)
  rw [hc] at hcount
  exact absurd hcount (by decide)

theorem readAlign_spec (hd : d.IsWritable) :
    readAlign d.spec = ((d.flags.fill, d.flags.align), d.tail) := by
  have htail : ∀ c ∈ d.tail, Align.ofChar? c = none :=
    fun c hc => ofChar?_of_isTailChar (isTailChar_of_mem_tail hd hc)
  unfold Directive.spec Directive.flags
  rcases d.align with _ | ⟨_ | fill, align⟩
  · exact readAlign_of_forall htail
  · exact readAlign_mark align htail
  · exact readAlign_fill fill align d.tail

/-- What stands before and behind the colon is read as the placeholder that is meant. -/
theorem placeholder?_spec (hd : d.IsWritable) :
    placeholder? d.argument.text d.spec = some d.placeholder := by
  have hmarks {c : Char} (hc : isCountChar c = false) (hne : c ≠ '#') :
      ((if d.alternate then ['#'] else []) ++ d.counts).head? ≠ some c := by
    split
    · exact fun hhead => hne (Option.some.inj hhead).symm
    · exact head?_counts_ne hd hc
  have hsign : readSign d.tail = (decide (d.sign = some .plus),
      (if d.alternate then ['#'] else []) ++ d.counts) :=
    readSign_spell d.sign (hmarks (by decide) (by decide)) (hmarks (by decide) (by decide))
  have hflag : readFlag '#' ((if d.alternate then ['#'] else []) ++ d.counts) =
      (d.alternate, d.counts) :=
    readFlag_spell d.alternate (head?_counts_ne hd (by decide))
  have hwidth : readWidth d.counts =
      ((d.zeroPad, d.width), d.precision.spellPrecision ++ d.style.spell) :=
    readWidth_spell hd.width (endsCount_precision d.precision d.style)
  have hstyle : Style.ofText? d.style.spell = some d.style := by
    rcases d.style with _ | (_ | _ | _) | (_ | _) | _ | _ | (_ | _) <;> rfl
  simp only [placeholder?, reference?_text hd.argument, readAlign_spec hd, hsign, hflag, hwidth,
    readPrecision_spell hd.precision d.style, hstyle, Option.bind_eq_bind, Option.bind_some]
  rfl

/-- The characters up to the fill and the alignment are passed over, whatever they are, and
the next closing brace ends the directive. -/
theorem splitBody_of_openLength {opening inside rest : Text}
    (hopen : openLength (opening ++ (inside ++ '}' :: rest)) = opening.length)
    (hinside : '}' ∉ inside) :
    splitBody (opening ++ (inside ++ '}' :: rest)) = some (opening ++ inside, rest) := by
  have hall : ∀ c ∈ inside, (c != '}') = true := by
    intro c hc
    have hne : c ≠ '}' := fun h => hinside (h ▸ hc)
    simp [hne]
  simp only [splitBody, hopen, List.take_left, List.drop_left, Text.splitWhile,
    List.takeWhile_append_of_pos hall, List.dropWhile_append_of_pos hall]
  simp

/-- Behind a reference and a colon, the fill and the alignment are what is passed over. -/
theorem openLength_colon {head : Text} (hcolon : ':' ∉ head) (hbrace : '}' ∉ head)
    (spec : Text) : openLength (head ++ ':' :: spec) = head.length + 1 + fillLength spec := by
  have hhead : ∀ c ∈ head, (c != ':' && c != '}') = true := by
    intro c hc
    have h1 : c ≠ ':' := fun h => hcolon (h ▸ hc)
    have h2 : c ≠ '}' := fun h => hbrace (h ▸ hc)
    simp [h1, h2]
  simp only [openLength, Text.splitWhile, List.takeWhile_append_of_pos hhead,
    List.dropWhile_append_of_pos hhead]
  simp

theorem fillLength_cons (c : Char) {text : Text} (h : ∀ d ∈ text.head?, Align.ofChar? d = none) :
    fillLength (c :: text) = 0 := by
  cases text with
  | nil => rfl
  | cons d rest => simp [fillLength, h d rfl]

/-- Where something stands behind the colon, it is a part that is passed over, and a
part without closing braces. -/
theorem exists_fillLength_spec (hd : d.IsWritable) (hspec : d.spec ≠ []) (rest : Text) :
    ∃ passed inside, d.spec = passed ++ inside ∧ '}' ∉ inside ∧
      fillLength (d.spec ++ '}' :: rest) = passed.length := by
  have htail : ∀ c ∈ d.tail, isTailChar c := fun c => isTailChar_of_mem_tail hd
  have hbrace : '}' ∉ d.tail := fun hmem => absurd (htail _ hmem) (by decide)
  have hbehind : ∀ c ∈ (d.tail ++ '}' :: rest).head?, Align.ofChar? c = none := by
    intro c hc
    cases htails : d.tail with
    | nil =>
        rw [htails] at hc
        obtain rfl := Option.some.inj hc
        rfl
    | cons first others =>
        rw [htails] at hc
        obtain rfl := Option.some.inj hc
        exact ofChar?_of_isTailChar (htail first (htails ▸ List.mem_cons_self))
  unfold Directive.spec at hspec ⊢
  rcases halign : d.align with _ | ⟨_ | fill, align⟩
  · rw [halign] at hspec
    refine ⟨[], d.tail, rfl, hbrace, ?_⟩
    cases htails : d.tail with
    | nil => exact absurd htails hspec
    | cons first others =>
        apply fillLength_cons
        intro c hc
        cases others with
        | nil =>
            obtain rfl := Option.some.inj hc
            rfl
        | cons second others =>
            obtain rfl := Option.some.inj hc
            refine ofChar?_of_isTailChar (htail second ?_)
            rw [htails]
            exact List.mem_cons_of_mem first List.mem_cons_self
  · refine ⟨[], align.mark :: d.tail, rfl, ?_, fillLength_cons align.mark hbehind⟩
    rw [List.mem_cons, not_or]
    exact ⟨by cases align <;> decide, hbrace⟩
  · refine ⟨[fill, align.mark], d.tail, rfl, hbrace, ?_⟩
    simp [fillLength, ofChar?_mark]

/-- The brace that closes a directive is found, whatever its fill and whatever follows. -/
theorem splitBody_body (hd : d.IsWritable) (rest : Text) :
    splitBody (d.body ++ '}' :: rest) = some (d.body, rest) := by
  obtain ⟨hcolon, hclose, -⟩ := notMem_of_isNameChar (isNameChar_of_mem_text hd.argument)
  by_cases hspec : d.spec = []
  · rw [Directive.body, if_pos hspec, List.append_nil]
    exact splitBody_of_notMem hcolon hclose rest
  · obtain ⟨passed, inside, hsplit, hbrace, hlength⟩ := exists_fillLength_spec hd hspec rest
    have hbody : d.body = (d.argument.text ++ ':' :: passed) ++ inside := by
      rw [Directive.body, if_neg hspec, hsplit]
      simp
    have hopen : openLength ((d.argument.text ++ ':' :: passed) ++ (inside ++ '}' :: rest)) =
        (d.argument.text ++ ':' :: passed).length := by
      have hwhole : (d.argument.text ++ ':' :: passed) ++ (inside ++ '}' :: rest) =
          d.argument.text ++ ':' :: (d.spec ++ '}' :: rest) := by
        rw [hsplit]
        simp
      rw [hwhole, openLength_colon hcolon hclose, hlength, List.length_append, List.length_cons]
      omega
    rw [hbody, List.append_assoc]
    exact splitBody_of_openLength hopen hbrace

theorem readBody_body (hd : d.IsWritable) : readBody d.body = .ok d.placeholder := by
  obtain ⟨hcolon, -, -⟩ := notMem_of_isNameChar (isNameChar_of_mem_text hd.argument)
  have hall : ∀ c ∈ d.argument.text, (c != ':') = true := by
    intro c hc
    have hne : c ≠ ':' := fun h => hcolon (h ▸ hc)
    simp [hne]
  have hplaceholder := placeholder?_spec hd
  by_cases hspec : d.spec = []
  · have hsplit : Text.splitWhile (· != ':') d.body = (d.argument.text, []) := by
      rw [Directive.body, if_pos hspec, List.append_nil, Text.splitWhile,
        List.takeWhile_eq_self_iff.mpr hall, List.dropWhile_eq_nil_iff.mpr hall]
    rw [hspec] at hplaceholder
    simp only [readBody, hsplit, hplaceholder]
  · have hsplit : Text.splitWhile (· != ':') d.body = (d.argument.text, ':' :: d.spec) := by
      rw [Directive.body, if_neg hspec, Text.splitWhile, List.takeWhile_append_of_pos hall,
        List.dropWhile_append_of_pos hall]
      simp
    simp only [readBody, hsplit, hplaceholder]

/-- **A directive is read as its placeholder**, whatever stands behind it. -/
theorem read_directive (hd : d.IsWritable) {rest : Text} {pieces : List Piece}
    (hrest : read rest = .ok pieces) :
    read (d.text ++ rest) = .ok (.placeholder d.placeholder :: pieces) := by
  obtain ⟨-, -, hopen⟩ := notMem_of_isNameChar (isNameChar_of_mem_text hd.argument)
  have hsingle : d.body.head? ≠ some '{' := by
    intro hhead
    cases hname : d.argument.text with
    | nil =>
        rw [Directive.body, hname, List.nil_append] at hhead
        split at hhead
        · exact nomatch hhead
        · exact absurd (Option.some.inj hhead) (by decide)
    | cons c chars =>
        rw [Directive.body, hname, List.cons_append] at hhead
        obtain rfl := Option.some.inj hhead
        exact hopen (hname ▸ List.mem_cons_self)
  have hread := read_placeholder d.body hsingle (splitBody_body hd rest) (readBody_body hd) hrest
  simpa [Directive.text] using hread

end Template

end Faults
