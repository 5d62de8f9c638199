import Faults.Proofs.WrittenPlaceholders

/-!
# What a directive asks for

A directive names an argument, and it gives a width and a precision as numbers or
has them given by other arguments.  Here it is said what all this comes to, without the
counter that filling carries along: which numbers (`Count.Gives`), which
argument and hence which specification (`Directive.Asks`).  Wherever a directive
stands in a template, it inserts the text of that argument under that
specification (`Template.fill_between`).

An argument that is no count gives no width and no precision.  So when another
argument takes its place, the directive asks for this one, under the same specification
(`Directive.Asks.set`).

* `Template.count_of_gives` — the number that a count gives is taken, or refused;
* `Template.fill_between`, `Template.fill_directive` — a directive between two texts, and alone;
* `Template.fill_between_of_exceeding`, `Template.fill_directive_of_exceeding` — a width or
  a precision beyond the limit.
-/

namespace Faults

namespace Count

def takes : Count → Nat
  | taken argument => argument.takes
  | _ => 0

/-- The number that a width or a precision comes to when so many arguments have been
taken as the next one. -/
inductive Gives (names : List String) (arguments : List Argument) (before : Nat) :
    Count → Option Nat → Prop
  | implied : Gives names arguments before .implied none
  | exactly (n : Nat) : Gives names arguments before (.exactly n) (some n)
  | taken {argument : Reference} {i n : Nat}
      (hposition : argument.position? names before = some i)
      (hargument : arguments[i]? = some (.scalar (.integer .count n))) :
      Gives names arguments before (.taken argument) (some n)

/-- What is no count gives no number, so anything else may stand there. -/
theorem Gives.set {names : List String} {arguments : List Argument} {before : Nat}
    {count : Count} {given : Option Nat} (h : count.Gives names arguments before given) {i : Nat}
    {x : Argument} (hx : arguments[i]? = some x)
    (hcount : ∀ n : Nat, x ≠ .scalar (.integer .count n)) (y : Argument) :
    count.Gives names (arguments.set i y) before given := by
  cases h with
  | implied => exact .implied
  | exactly n => exact .exactly n
  | @taken argument j n hposition hargument =>
      have hne : i ≠ j := by
        rintro rfl
        exact hcount n (Option.some.inj (hx.symm.trans hargument))
      refine .taken hposition ?_
      rw [List.getElem?_set_ne hne, hargument]

end Count

namespace Directive

/-- With these arguments, a directive asks for the i-th of them, with this width and
this precision, and neither is beyond the limit. -/
structure Asks (d : Directive) (names : List String) (arguments : List Argument)
    (width precision : Option Nat) (i : Nat) : Prop where
  givesWidth : d.width.Gives names arguments 0 width
  widthLimit : ∀ n ∈ width, n ≤ Count.greatest
  givesPrecision : d.precision.Gives names arguments d.width.takes precision
  precisionLimit : ∀ n ∈ precision, n ≤ Count.greatest
  position : d.argument.position? names (d.width.takes + d.precision.takes) = some i

/-- With these arguments, a directive means the i-th of them, with this width and this
precision, which may be beyond the limit. -/
structure Means (d : Directive) (names : List String) (arguments : List Argument)
    (width precision : Option Nat) (i : Nat) : Prop where
  givesWidth : d.width.Gives names arguments 0 width
  givesPrecision : d.precision.Gives names arguments d.width.takes precision
  position : d.argument.position? names (d.width.takes + d.precision.takes) = some i

/-- What a directive means within the limit, it asks for. -/
theorem Means.asks {d : Directive} {names : List String} {arguments : List Argument}
    {width precision : Option Nat} {i : Nat} (h : d.Means names arguments width precision i)
    (hwidth : ∀ n ∈ width, n ≤ Count.greatest)
    (hprecision : ∀ n ∈ precision, n ≤ Count.greatest) :
    d.Asks names arguments width precision i where
  givesWidth := h.givesWidth
  widthLimit := hwidth
  givesPrecision := h.givesPrecision
  precisionLimit := hprecision
  position := h.position

/-- The specification that is asked for with this width and this precision. -/
def asked (d : Directive) (width precision : Option Nat) : Spec :=
  { d.flags with width := width.getD 0, precision }

/-- The template in which a directive stands between two texts that stand for themselves. -/
def between (d : Directive) (before behind : String) : Text :=
  (Segment.literal before).spell ++ (d.text ++ (Segment.literal behind).spell)

/-- Another argument may take the place of the one that is asked for. -/
theorem Asks.set {d : Directive} {names : List String} {arguments : List Argument}
    {width precision : Option Nat} {i : Nat} (h : d.Asks names arguments width precision i)
    {x : Argument} (hx : arguments[i]? = some x)
    (hcount : ∀ n : Nat, x ≠ .scalar (.integer .count n)) (y : Argument) :
    d.Asks names (arguments.set i y) width precision i where
  givesWidth := h.givesWidth.set hx hcount y
  widthLimit := h.widthLimit
  givesPrecision := h.givesPrecision.set hx hcount y
  precisionLimit := h.precisionLimit
  position := h.position

end Directive

namespace Template

variable {hidden : Char → Bool} {names : List String} {arguments : List Argument}

/-- A number that is given is taken, if it is within the limit, and refused otherwise. -/
theorem count_of_gives {next : Nat} {c : Count} {given : Option Nat}
    (h : c.Gives names arguments next given) :
    ((∀ n ∈ given, n ≤ Count.greatest) →
      count names arguments next c = .ok (given, next + c.takes)) ∧
    ∀ n ∈ given, Count.greatest < n → count names arguments next c = .error (.countTooLarge n) := by
  have htaken {n : Nat} (hle : n ≤ Count.greatest) : limited n = .ok n := if_pos hle
  have hrefused {n : Nat} (hlt : Count.greatest < n) : limited n = .error (.countTooLarge n) :=
    if_neg (Nat.not_le.mpr hlt)
  cases h with
  | implied => exact ⟨fun _ => rfl, fun n hn => absurd hn (Option.not_mem_none n)⟩
  | exactly n =>
      refine ⟨fun hlimit => ?_, fun m hm hexceeds => ?_⟩
      · rw [count, htaken (hlimit n rfl)]
        rfl
      · obtain rfl := Option.some.inj hm
        rw [count, hrefused hexceeds]
        rfl
  | @taken argument i n hposition hargument =>
      have hcount : (Argument.scalar (.integer .count n)).count? = some n := by
        simp [Argument.count?]
      have hlookup := lookup_of_reference hposition hargument
      refine ⟨fun hlimit => ?_, fun m hm hexceeds => ?_⟩
      · simp only [count, bind, Except.bind, hlookup, hcount, htaken (hlimit n rfl), pure,
          Except.pure]
        rfl
      · obtain rfl := Option.some.inj hm
        simp only [count, bind, Except.bind, hlookup, hcount, hrefused hexceeds]

variable {d : Directive} {width precision : Option Nat} {i : Nat} {x : Argument}

theorem fillPlaceholder_directive {text : Text}
    (hasks : d.Asks names arguments width precision i) (hx : arguments[i]? = some x)
    (hrender : x.render? hidden (d.asked width precision) d.style = some text) :
    fillPlaceholder hidden names arguments 0 d.placeholder =
      .ok (text, d.width.takes + d.precision.takes + d.argument.takes) := by
  have hwidth := (count_of_gives hasks.givesWidth).1 hasks.widthLimit
  have hprecision := (count_of_gives hasks.givesPrecision).1 hasks.precisionLimit
  have hargument := lookup_of_reference hasks.position hx
  rw [Nat.zero_add] at hwidth
  have hrender' : x.render? hidden
      { d.placeholder.flags with width := width.getD 0, precision } d.placeholder.style =
        some text := hrender
  simp only [fillPlaceholder, bind, Except.bind, Directive.placeholder, hwidth, hprecision,
    hargument] at hrender' ⊢
  simp only [hrender']

/-- A text that stands for itself is read as its characters, whatever follows. -/
theorem read_literal (s : String) {rest : Text} {pieces : List Piece}
    (hrest : read rest = .ok pieces) :
    read ((Segment.literal s).spell ++ rest) = .ok (s.toList.map .literal ++ pieces) := by
  have hplace : ∀ argument, Segment.literal s = .place argument → argument.IsWritable := by
    intro argument heq
    cases heq
  exact read_spell hplace hrest

/-- A directive between two texts that stand for themselves is read as its placeholder
between their characters. -/
theorem read_between (hd : d.IsWritable) (before behind : String) :
    read (d.between before behind) =
      .ok (before.toList.map .literal ++
        .placeholder d.placeholder :: behind.toList.map .literal) := by
  have hend : read [] = .ok [] := by rw [read]
  have hbehind : read (Segment.literal behind).spell = .ok (behind.toList.map .literal) := by
    have hspell := read_literal behind hend
    rwa [List.append_nil, List.append_nil] at hspell
  exact read_literal before (read_directive hd hbehind)

/-- **A directive inserts** the text of the argument that it asks for, under the
specification that it asks for, and nothing else. -/
theorem fill_between {text : Text} (hd : d.IsWritable)
    (hasks : d.Asks names arguments width precision i) (hx : arguments[i]? = some x)
    (hrender : x.render? hidden (d.asked width precision) d.style = some text)
    (before behind : String) :
    fill hidden names arguments (d.between before behind) =
      .ok (before.toList ++ text ++ behind.toList) := by
  have hplace := fillPlaceholder_directive hasks hx hrender
  have hbehind (next : Nat) :
      fillFrom hidden names arguments next (behind.toList.map .literal) = .ok behind.toList := by
    have hend : fillFrom hidden names arguments next [] = .ok [] := rfl
    have hliterals := fillFrom_literals next behind.toList hend
    rwa [List.append_nil, List.append_nil] at hliterals
  have hdirective : fillFrom hidden names arguments 0
      (.placeholder d.placeholder :: behind.toList.map .literal) = .ok (text ++ behind.toList) := by
    simp only [fillFrom, hplace, hbehind, bind, Except.bind, pure, Except.pure]
  rw [fill, read_between hd, List.append_assoc]
  exact fillFrom_literals 0 before.toList hdirective

/-- A template that is one directive is filled with what the directive inserts. -/
theorem fill_directive {text : Text} (hd : d.IsWritable)
    (hasks : d.Asks names arguments width precision i) (hx : arguments[i]? = some x)
    (hrender : x.render? hidden (d.asked width precision) d.style = some text) :
    fill hidden names arguments d.text = .ok text := by
  have hbetween := fill_between hd hasks hx hrender "" ""
  simpa [Directive.between, Segment.spell] using hbetween

/-- Characters in front of pieces that cannot be filled do not help. -/
theorem fillFrom_literals_of_error {pieces : List Piece} {error : TemplateError} (next : Nat)
    (before : Text) (h : fillFrom hidden names arguments next pieces = .error error) :
    fillFrom hidden names arguments next (before.map .literal ++ pieces) = .error error := by
  induction before with
  | nil => exact h
  | cons c before ih =>
      rw [List.map_cons, List.cons_append, fillFrom, ih]
      rfl

/-- The width of a directive is counted first. -/
theorem fillPlaceholder_of_exceeding_width {n : Nat}
    (hwidth : d.width.Gives names arguments 0 (some n)) (hexceeds : Count.greatest < n) :
    fillPlaceholder hidden names arguments 0 d.placeholder = .error (.countTooLarge n) := by
  have hcount := (count_of_gives hwidth).2 n rfl hexceeds
  simp only [fillPlaceholder, bind, Except.bind, Directive.placeholder, hcount]

/-- A directive whose placeholder cannot be filled inserts nothing anywhere. -/
theorem fill_between_of_error {error : TemplateError} (hd : d.IsWritable)
    (hplace : fillPlaceholder hidden names arguments 0 d.placeholder = .error error)
    (before behind : String) :
    fill hidden names arguments (d.between before behind) = .error error := by
  rw [fill, read_between hd]
  apply fillFrom_literals_of_error 0 before.toList
  simp only [fillFrom, hplace, bind, Except.bind]

/-- A width beyond the limit is refused before anything else is looked at. -/
theorem fill_directive_of_exceeding {n : Nat} (hd : d.IsWritable)
    (hwidth : d.width.Gives names arguments 0 (some n)) (hexceeds : Count.greatest < n) :
    fill hidden names arguments d.text = .error (.countTooLarge n) := by
  have hplace : fillPlaceholder hidden names arguments 0 d.placeholder =
      .error (.countTooLarge n) := fillPlaceholder_of_exceeding_width hwidth hexceeds
  have hbetween := fill_between_of_error hd hplace "" ""
  simpa [Directive.between, Segment.spell] using hbetween

end Template

end Faults
