import Faults.Format.Template

/-!
# Reading templates

A template is read from left to right.  Two equal braces stand for one; a
single opening brace begins a placeholder, whose form is

    { [argument] [ : [[fill] align] [sign] [#] [0] [width] [. precision] [style] ] }

* `argument` is a position, a name or nothing;
* `fill` is any character at all, even a brace, provided that an alignment
  (`<`, `^` or `>`) follows it;
* `sign` is `+` or `-`, the latter without effect;
* `0` is the zero flag, unless a `$` follows, when it is the width;
* `width` is a number, or a position or a name with a `$` behind it;
* `precision` is the same, or a `*` for the next argument;
* `style` is one of `?`, `x?`, `X?`, `x`, `X`, `o`, `b`, `e`, `E` or nothing.

`splitBody` finds the brace that closes a placeholder, `Placeholder.read` takes its
inside apart, and `Template.read` is the whole.
-/

namespace Faults

/-- The alignment that a character asks for. -/
def Align.ofChar? : Char → Option Align
  | '<' => some .left
  | '^' => some .centre
  | '>' => some .right
  | _ => none

/-- The style that the end of a placeholder asks for. -/
def Style.ofText? : Text → Option Style
  | [] => some .plain
  | ['?'] => some (.inspect none)
  | ['x', '?'] => some (.inspect (some .lower))
  | ['X', '?'] => some (.inspect (some .upper))
  | ['x'] => some (.hex .lower)
  | ['X'] => some (.hex .upper)
  | ['o'] => some .octal
  | ['b'] => some .binary
  | ['e'] => some (.exponent .lower)
  | ['E'] => some (.exponent .upper)
  | _ => none

namespace Template

/-- Whether a character may stand in the name of an argument.  Beyond ASCII, every
one may. -/
def isNameChar (c : Char) : Bool :=
  c.isAlphanum || c == '_' || 128 ≤ c.toNat

/-- The reference that the head of a placeholder makes. -/
def reference? (text : Text) : Option Reference :=
  if text = [] then some .next
  else if text.all Char.isDigit then some (.index (Nat.ofDigitChars 10 text 0))
  else if text.all isNameChar ∧ text.head?.all (!·.isDigit) then
    some (.name (String.ofList text))
  else none

/-- A fill and an alignment, if they stand first, and the rest. -/
def readAlign : Text → (Char × Option Align) × Text
  | [] => ((' ', none), [])
  | [c] =>
    match Align.ofChar? c with
    | some align => ((' ', some align), [])
    | none => ((' ', none), [c])
  | c :: d :: rest =>
    match Align.ofChar? d, Align.ofChar? c with
    | some align, _ => ((c, some align), rest)
    | none, some align => ((' ', some align), d :: rest)
    | none, none => ((' ', none), c :: d :: rest)

/-- Whether a plus sign stands first; a minus sign is passed over. -/
def readSign : Text → Bool × Text
  | '+' :: rest => (true, rest)
  | '-' :: rest => (false, rest)
  | rest => (false, rest)

/-- Whether a given character stands first. -/
def readFlag (flag : Char) : Text → Bool × Text
  | [] => (false, [])
  | c :: rest => if c = flag then (true, rest) else (false, c :: rest)

/-- A count, if one stands first: a number, or a reference with a `$` behind it. -/
def readCount (text : Text) : Count × Text :=
  match text.splitWhile Char.isDigit with
  | ([], _) =>
    match text.splitWhile isNameChar with
    | (name, '$' :: rest) =>
      if name = [] then (.implied, text) else (.taken (.name (String.ofList name)), rest)
    | _ => (.implied, text)
  | (digits, '$' :: rest) => (.taken (.index (Nat.ofDigitChars 10 digits 0)), rest)
  | (digits, rest) => (.exactly (Nat.ofDigitChars 10 digits 0), rest)

/-- The zero flag and the width. -/
def readWidth : Text → (Bool × Count) × Text
  | '0' :: '$' :: rest => ((false, .taken (.index 0)), rest)
  | text =>
    let (zeroPad, rest) := readFlag '0' text
    let (width, rest) := readCount rest
    ((zeroPad, width), rest)

/-- The precision, if a point stands first. -/
def readPrecision : Text → Count × Text
  | '.' :: '*' :: rest => (.taken .next, rest)
  | '.' :: rest => readCount rest
  | rest => (.implied, rest)

/-- The inside of a placeholder, from what stands before its colon and what
stands behind it. -/
def placeholder? (head spec : Text) : Option Placeholder := do
  let argument ← reference? head
  let ((fill, align), rest) := readAlign spec
  let (plus, rest) := readSign rest
  let (alternate, rest) := readFlag '#' rest
  let ((zeroPad, width), rest) := readWidth rest
  let (precision, rest) := readPrecision rest
  let style ← Style.ofText? rest
  return { argument, style, width, precision
           flags := { fill, align, plus, alternate, zeroPad } }

def readBody (body : Text) : Except TemplateError Placeholder :=
  let parsed := match body.splitWhile (· != ':') with
    | (head, ':' :: spec) => placeholder? head spec
    | (head, _) => placeholder? head []
  match parsed with
  | some p => .ok p
  | none => .error (.malformed (String.ofList body))

/-- How many characters at the start of a specification belong to a fill and
its alignment. -/
def fillLength : Text → Nat
  | _ :: d :: _ => if (Align.ofChar? d).isSome then 2 else 0
  | _ => 0

/-- How many characters behind the opening brace of a placeholder cannot close
it: all up to the fill and the alignment, where these are given. -/
def openLength (text : Text) : Nat :=
  match text.splitWhile (fun c => c != ':' && c != '}') with
  | (head, ':' :: spec) => head.length + 1 + fillLength spec
  | _ => 0

/-- The inside of a placeholder whose opening brace has been read, and what
follows the brace that closes it. -/
def splitBody (text : Text) : Option (Text × Text) :=
  match Text.splitWhile (· != '}') (text.drop (openLength text)) with
  | (inside, _ :: rest) => some (text.take (openLength text) ++ inside, rest)
  | (_, []) => none

/-- What follows a placeholder is shorter than what follows its opening brace. -/
theorem length_lt_of_splitBody {text body rest : Text}
    (h : splitBody text = some (body, rest)) : rest.length < text.length := by
  simp only [splitBody, Text.splitWhile] at h
  split at h
  case h_1 inside c after heq =>
    simp only [Prod.mk.injEq] at heq
    simp only [Option.some.injEq, Prod.mk.injEq] at h
    obtain ⟨_, rfl⟩ := h
    have shorter := (List.dropWhile_sublist (· != '}')
      (l := text.drop (openLength text))).length_le
    rw [heq.2, List.length_drop, List.length_cons] at shorter
    omega
  case h_2 => simp at h

def read : Text → Except TemplateError (List Piece)
  | [] => .ok []
  | '{' :: '{' :: rest => (read rest).map (.literal '{' :: ·)
  | '}' :: '}' :: rest => (read rest).map (.literal '}' :: ·)
  | '}' :: _ => .error .unopened
  | '{' :: rest =>
    match _h : splitBody rest with
    | none => .error .unclosed
    | some (body, after) => do
      let p ← readBody body
      let pieces ← read after
      return .placeholder p :: pieces
  | c :: rest => (read rest).map (.literal c :: ·)
termination_by text => text.length
decreasing_by
  · exact Nat.lt_succ_of_lt (Nat.lt_succ_self _)
  · exact Nat.lt_succ_of_lt (Nat.lt_succ_self _)
  · exact Nat.lt_succ_of_lt (length_lt_of_splitBody _h)
  · exact Nat.lt_succ_self _

end Template

end Faults
