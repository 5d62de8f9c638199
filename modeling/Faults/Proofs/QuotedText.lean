import Faults.Numeral.Reader
import Faults.Proofs.SelfDelimiting
import Faults.Text.Quoted

/-!
# Quoted text ends where it seems to end

Between double quotes every character is spelled on its own, some by an escape.
Which characters are spelled by number is a parameter, `hidden`, and nothing
here depends on it: `Quoted.IsSpelling` says what may be written for a
character under any choice, and all facts are read off from that.

* `Quoted.IsSpelling.read` — **spellings are prefix-free**: the reader
  `readSpelling` finds the character and the end of its spelling, whatever
  follows, without knowing which characters are hidden;
* `Quoted.newline_notMem_text` — quoted text stays on one line;
* `Quoted.scanQuoted_spellAll` — the first double quote that no backslash
  escapes is the closing one;
* `Quoted.selfDelimiting_text` — quoted text is self-delimiting.
-/

namespace Faults.Quoted

/-- The characters with a short escape: the letter behind the backslash, and
the character that it stands for. -/
def shortEscapes : List (Char × Char) :=
  [('0', '\x00'), ('t', '\t'), ('r', '\r'), ('n', '\n'), ('\\', '\\'), ('"', '"')]

/-- What may be written for a character between double quotes. -/
inductive IsSpelling : Char → Text → Prop
  | short {letter c : Char} (h : (letter, c) ∈ shortEscapes) : IsSpelling c ['\\', letter]
  | byNumber (c : Char) : IsSpelling c (byNumber c)
  | bare {c : Char} (hbackslash : c ≠ '\\') (hquote : c ≠ '"') (hnewline : c ≠ '\n') :
      IsSpelling c [c]

/-- Whatever counts as hidden, a character is spelled in one of these ways. -/
theorem isSpelling_spell (hidden : Char → Bool) (c : Char) :
    IsSpelling c (spell hidden '"' c) := by
  unfold spell
  split
  · next h => exact h ▸ .short (by decide)
  split
  · next h => exact h ▸ .short (by decide)
  split
  · next h => exact h ▸ .short (by decide)
  split
  · next h => exact h ▸ .short (by decide)
  next hnewline =>
    split
    · next h =>
        rcases h with rfl | rfl
        · exact .short (by decide)
        · exact .short (by decide)
    · next h =>
        obtain ⟨hbackslash, hquote⟩ := not_or.mp h
        split
        · exact .byNumber c
        · exact .bare hbackslash hquote hnewline

/-! ## Hexadecimal numbers -/

/-- The number with the given hexadecimal digits. -/
def hexValue (digits : Text) : Nat :=
  digits.foldl (fun n c => 16 * n + (Numeral.digit? 16 c).getD 0) 0

/-- A character among the digits of a number is one of the sixteen digits. -/
theorem exists_digitChar_of_mem_toDigits {n : Nat} {c : Char} (h : c ∈ Nat.toDigits 16 n) :
    ∃ d < 16, c = Nat.digitChar d := by
  induction n using Nat.strongRecOn with
  | ind n ih =>
      by_cases hlt : n < 16
      · rw [Nat.toDigits_of_lt_base hlt, List.mem_singleton] at h
        exact ⟨n, hlt, h⟩
      · rw [Nat.toDigits_of_base_le (by decide) (by omega), List.mem_append] at h
        rcases h with hfront | hlast
        · exact ih (n / 16) (by omega) hfront
        · exact ⟨n % 16, Nat.mod_lt n (by decide), List.mem_singleton.mp hlast⟩

theorem hexValue_toDigits (n : Nat) : hexValue (Nat.toDigits 16 n) = n := by
  have hdigit : ∀ d < 16, (Numeral.digit? 16 (Nat.digitChar d)).getD 0 = d := by decide
  induction n using Nat.strongRecOn with
  | ind n ih =>
      by_cases hlt : n < 16
      · rw [Nat.toDigits_of_lt_base hlt]
        simpa [hexValue] using hdigit n hlt
      · have hfront := ih (n / 16) (by omega)
        have hlast := hdigit (n % 16) (by omega)
        rw [Nat.toDigits_of_base_le (by decide) (by omega)]
        unfold hexValue at hfront ⊢
        rw [List.foldl_append, hfront, List.foldl_cons, List.foldl_nil, hlast]
        omega

/-! ## Reading a spelling -/

/-- Reads one spelled character, and what follows it. -/
def readSpelling : Text → Option (Char × Text)
  | [] => none
  | '\\' :: 'u' :: rest =>
    let (number, behind) := Text.splitWhile (· != '}') (rest.drop 1)
    some (Char.ofNat (hexValue number), behind.drop 1)
  | '\\' :: letter :: rest => (shortEscapes.lookup letter).map fun c => (c, rest)
  | c :: rest => some (c, rest)

/-- **A spelling gives back its character and its end**, whatever follows. -/
theorem IsSpelling.read {c : Char} {spelling : Text} (h : IsSpelling c spelling)
    (rest : Text) : readSpelling (spelling ++ rest) = some (c, rest) := by
  cases h with
  | short h =>
      simp only [shortEscapes, List.mem_cons, Prod.mk.injEq, List.not_mem_nil, or_false] at h
      rcases h with ⟨rfl, rfl⟩ | ⟨rfl, rfl⟩ | ⟨rfl, rfl⟩ | ⟨rfl, rfl⟩ | ⟨rfl, rfl⟩ | ⟨rfl, rfl⟩
        <;> rfl
  | byNumber c =>
      have hdigits : ∀ d ∈ Nat.toDigits 16 c.toNat, (d != '}') = true := by
        intro d hd
        obtain ⟨n, -, rfl⟩ := exists_digitChar_of_mem_toDigits hd
        exact bne_iff_ne.mpr (Nat.digitChar_ne '}' (by decide))
      have hsplit : Text.splitWhile (· != '}') (Nat.toDigits 16 c.toNat ++ '}' :: rest) =
          (Nat.toDigits 16 c.toNat, '}' :: rest) := by
        rw [Text.splitWhile, List.takeWhile_append_of_pos hdigits,
          List.dropWhile_append_of_pos hdigits]
        simp
      have hshape : Quoted.byNumber c ++ rest =
          '\\' :: 'u' :: '{' :: (Nat.toDigits 16 c.toNat ++ '}' :: rest) := by
        simp [Quoted.byNumber]
      rw [hshape, readSpelling, List.drop_one, List.tail_cons, hsplit]
      simp [hexValue_toDigits, Char.ofNat_toNat]
  | bare hbackslash hquote hnewline =>
      rw [List.singleton_append]
      unfold readSpelling
      split
      · next heq => exact nomatch heq
      · next heq => exact absurd (List.cons.inj heq).1 hbackslash
      · next heq => exact absurd (List.cons.inj heq).1 hbackslash
      · next heq =>
          obtain ⟨rfl, rfl⟩ := List.cons.inj heq
          rfl

/-- Spellings of characters are self-delimiting, whatever counts as hidden. -/
theorem selfDelimiting_spell (hidden : Char → Bool) : SelfDelimiting (spell hidden '"') := by
  intro c d r s heq
  have hread := (isSpelling_spell hidden c).read r
  rw [heq, (isSpelling_spell hidden d).read s] at hread
  obtain ⟨hchar, hend⟩ := Prod.mk.inj (Option.some.inj hread)
  exact ⟨hchar.symm, hend.symm⟩

/-! ## What stands between the quotes -/

/-- A text up to the first double quote that no backslash escapes, and what
follows that quote. -/
def scanQuoted : Text → Option (Text × Text)
  | [] => none
  | '"' :: rest => some ([], rest)
  | '\\' :: c :: rest => (scanQuoted rest).map fun (body, behind) => ('\\' :: c :: body, behind)
  | c :: rest => (scanQuoted rest).map fun (body, behind) => (c :: body, behind)

theorem scanQuoted_cons {c : Char} (hbackslash : c ≠ '\\') (hquote : c ≠ '"') (rest : Text) :
    scanQuoted (c :: rest) = (scanQuoted rest).map fun (body, behind) => (c :: body, behind) := by
  rw [scanQuoted]
  · exact hquote
  · intro _ _ heq _
    exact hbackslash heq

/-- Characters that are neither backslashes nor quotes are passed over. -/
theorem scanQuoted_append {run : Text} (hbackslash : '\\' ∉ run) (hquote : '"' ∉ run)
    (rest : Text) :
    scanQuoted (run ++ rest) =
      (scanQuoted rest).map fun (body, behind) => (run ++ body, behind) := by
  induction run with
  | nil => simp
  | cons c run ih =>
      rw [List.mem_cons, not_or] at hbackslash hquote
      rw [List.cons_append, scanQuoted_cons (Ne.symm hbackslash.1) (Ne.symm hquote.1),
        ih hbackslash.2 hquote.2, Option.map_map]
      rfl

/-- The digits and braces of a number hold none of the characters that matter
to a reader of quoted text. -/
theorem notMem_number {c : Char} (n : Nat) (hbrace : c ≠ '{' ∧ c ≠ '}')
    (hdigit : ∀ d, Nat.digitChar d ≠ c) : c ∉ '{' :: Nat.toDigits 16 n ++ ['}'] := by
  intro hmem
  simp only [List.cons_append, List.mem_cons, List.mem_append, List.not_mem_nil,
    or_false] at hmem
  rcases hmem with hopen | hnumber | hclose
  · exact hbrace.1 hopen
  · obtain ⟨d, -, rfl⟩ := exists_digitChar_of_mem_toDigits hnumber
    exact hdigit d rfl
  · exact hbrace.2 hclose

/-- A spelling is passed over whole. -/
theorem IsSpelling.scan {c : Char} {spelling : Text} (h : IsSpelling c spelling)
    (rest : Text) :
    scanQuoted (spelling ++ rest) =
      (scanQuoted rest).map fun (body, behind) => (spelling ++ body, behind) := by
  cases h with
  | short h => rfl
  | byNumber c =>
      have hbackslash : '\\' ∉ '{' :: Nat.toDigits 16 c.toNat ++ ['}'] :=
        notMem_number _ (by decide) fun d => Nat.digitChar_ne _ (by decide)
      have hquote : '"' ∉ '{' :: Nat.toDigits 16 c.toNat ++ ['}'] :=
        notMem_number _ (by decide) fun d => Nat.digitChar_ne _ (by decide)
      have hnumber := scanQuoted_append hbackslash hquote rest
      show scanQuoted ('\\' :: 'u' :: (('{' :: Nat.toDigits 16 c.toNat ++ ['}']) ++ rest)) = _
      rw [scanQuoted, hnumber, Option.map_map]
      rfl
  | bare hbackslash hquote hnewline => exact scanQuoted_cons hbackslash hquote rest

/-- **The closing quote is the first one that no backslash escapes**, whatever
follows it. -/
theorem scanQuoted_spellAll (hidden : Char → Bool) (s rest : Text) :
    scanQuoted (spellAll hidden '"' s ++ '"' :: rest) = some (spellAll hidden '"' s, rest) := by
  induction s with
  | nil => rfl
  | cons c s ih =>
      have hcons : spellAll hidden '"' (c :: s) = spell hidden '"' c ++ spellAll hidden '"' s :=
        List.flatMap_cons
      rw [hcons, List.append_assoc, (isSpelling_spell hidden c).scan, ih]
      rfl

theorem IsSpelling.newline_notMem {c : Char} {spelling : Text} (h : IsSpelling c spelling) :
    '\n' ∉ spelling := by
  cases h with
  | short h =>
      simp only [shortEscapes, List.mem_cons, Prod.mk.injEq, List.not_mem_nil, or_false] at h
      rcases h with ⟨rfl, -⟩ | ⟨rfl, -⟩ | ⟨rfl, -⟩ | ⟨rfl, -⟩ | ⟨rfl, -⟩ | ⟨rfl, -⟩ <;> decide
  | byNumber c =>
      intro hmem
      have hnumber : '\n' ∉ '{' :: Nat.toDigits 16 c.toNat ++ ['}'] :=
        notMem_number _ (by decide) fun d => Nat.digitChar_ne _ (by decide)
      rcases List.mem_cons.mp hmem with heq | hrest
      · exact absurd heq (by decide)
      · rcases List.mem_cons.mp hrest with heq | hrest
        · exact absurd heq (by decide)
        · exact hnumber hrest
  | bare hbackslash hquote hnewline =>
      intro hmem
      exact hnewline (List.mem_singleton.mp hmem).symm

/-- Quoted text stays on one line. -/
theorem newline_notMem_text (hidden : Char → Bool) (s : Text) : '\n' ∉ text hidden s := by
  intro hmem
  simp only [text, List.cons_append, List.mem_cons, List.mem_append, List.not_mem_nil,
    or_false] at hmem
  rcases hmem with heq | hbody | heq
  · exact absurd heq (by decide)
  · obtain ⟨c, -, hc⟩ := List.mem_flatMap.mp hbody
    exact (isSpelling_spell hidden c).newline_notMem hc
  · exact absurd heq (by decide)

/-- No spelling begins with a double quote. -/
theorem IsSpelling.append_ne_quote_cons {c : Char} {spelling : Text}
    (h : IsSpelling c spelling) (r s : Text) : spelling ++ r ≠ '"' :: s := by
  intro heq
  have hscan := h.scan r
  rw [heq, scanQuoted] at hscan
  obtain ⟨p, -, hp⟩ := Option.map_eq_some_iff.mp hscan.symm
  have hempty := (List.append_eq_nil_iff.mp (Prod.mk.inj hp).1).1
  rw [hempty] at h
  exact nomatch h

/-- **Quoted text is self-delimiting**, whatever counts as hidden. -/
theorem selfDelimiting_text (hidden : Char → Bool) : SelfDelimiting (text hidden) := by
  have hbody := (selfDelimiting_spell hidden).sequence
    fun c r s => (isSpelling_spell hidden c).append_ne_quote_cons r s
  exact hbody.lead ['"']

end Faults.Quoted
