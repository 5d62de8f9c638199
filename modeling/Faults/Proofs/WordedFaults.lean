import Faults.Fault.Draft
import Faults.Proofs.CanonicalText
import Faults.Proofs.TemplateSegments

/-!
# Worded faults

There are two ways to give a fault its message: to hand it over as it is, or to
word it with a template, whose arguments may be faults that are worded in turn.
For templates that spell segments and come with arguments, the second way is a
shorthand for the first: the fault has the message that a writer would have got by
putting the texts in a row.  A text that comes without arguments is no template, so
its braces are kept (`lone_brace_is_kept`).

* `Draft.Means` — which fault a draft means, without reading any template: a
  template means the wording of its segments, and a fault among the
  arguments stands for its canonical text;
* `Draft.Means.build_eq` — the draft is built, and is the fault that it means, to any
  depth;
* `SlotsMean.set` — what an argument is made of does not matter, only its text;
* `worded_eq_verbatim` — the two ways agree, where there are arguments.
-/

namespace Faults

section Meaning

variable (names : List String) (stored : String → Option Fault)

mutual

/-- The fault that a draft means. -/
inductive Draft.Means : Draft → Fault → Prop
  | bare (status : Int32) : Draft.Means (.bare status) (.ofStatus status)
  | verbatim (status : Int32) (message : String) :
      Draft.Means (.verbatim status message) ⟨status, message⟩
  | template {slots : List (Slot Draft)} {texts : List Text} {segments : List Segment}
      (status : Int32) (hslots : SlotsMean slots texts)
      (hrefer : Segment.AllRefer names slots.length segments) :
      Draft.Means (.template status (Segment.template segments) slots)
        ⟨status, String.ofList (Segment.wording names texts segments)⟩
  | stored {name : String} {e : Fault} (h : stored name = some e) :
      Draft.Means (.stored name) e

/-- The texts that the arguments of a template stand for. -/
inductive SlotsMean : List (Slot Draft) → List Text → Prop
  | nil : SlotsMean [] []
  | value {x : Argument} {text : Text} {slots : List (Slot Draft)} {texts : List Text}
      (h : x.display? = some text) (tail : SlotsMean slots texts) :
      SlotsMean (.value x :: slots) (text :: texts)
  | fault {d : Draft} {e : Fault} {slots : List (Slot Draft)} {texts : List Text}
      (h : Draft.Means d e) (tail : SlotsMean slots texts) :
      SlotsMean (.fault d :: slots) (e.canonicalText :: texts)

end

end Meaning

variable {names : List String} {stored : String → Option Fault}

/-! ## Building -/

theorem buildSlots_cons_of_ok {slot : Slot Draft} {slots : List (Slot Draft)} {x : Argument}
    {arguments : List Argument} (hslot : buildSlot names stored slot = .ok x)
    (hslots : buildSlots names stored slots = .ok arguments) :
    buildSlots names stored (slot :: slots) = .ok (x :: arguments) := by
  rw [buildSlots, hslot, hslots]
  rfl

theorem buildSlot_fault_of_ok {d : Draft} {e : Fault} (h : d.build names stored = .ok e) :
    buildSlot names stored (.fault d) = .ok (.scalar (.fault e)) := by
  rw [buildSlot, h]
  rfl

/-- A template whose arguments are built is filled with their texts. -/
theorem build_template_of_ok {slots : List (Slot Draft)} {arguments : List Argument}
    {texts : List Text} {segments : List Segment} (status : Int32)
    (hslots : buildSlots names stored slots = .ok arguments)
    (htexts : arguments.map Argument.display? = texts.map some)
    (hrefer : Segment.AllRefer names texts.length segments) :
    (Draft.template status (Segment.template segments) slots).build names stored =
      .ok ⟨status, String.ofList (Segment.wording names texts segments)⟩ := by
  have hlength : arguments.length = texts.length := by simpa using congrArg List.length htexts
  rw [← hlength] at hrefer
  have hfault : Fault.ofTemplate names status (Segment.template segments) arguments =
      .ok ⟨status, String.ofList (Segment.wording names texts segments)⟩ := by
    rw [Fault.ofTemplate, Template.fill_template htexts hrefer]
    rfl
  rw [Draft.build, hslots]
  show (Fault.ofTemplate _ _ _ _).mapError _ = _
  rw [hfault]
  rfl

theorem SlotsMean.length_eq : ∀ {slots : List (Slot Draft)} {texts : List Text},
    SlotsMean names stored slots texts → slots.length = texts.length
  | _, _, .nil => rfl
  | _, _, .value _ tail => congrArg Nat.succ tail.length_eq
  | _, _, .fault _ tail => congrArg Nat.succ tail.length_eq

-- The depth of the nesting goes into the induction: a template's arguments are drafts
-- that are built and mean what they say before the template does.
mutual

/-- **A draft is built, and is the fault that it means.** -/
theorem Draft.Means.build_eq {d : Draft} {e : Fault} :
    d.Means names stored e → d.build names stored = .ok e
  | .bare status => rfl
  | .verbatim status message => rfl
  | .stored h => by rw [Draft.build, h]
  | .template status hslots hrefer => by
      obtain ⟨arguments, hbuild, htexts⟩ := hslots.exists_arguments
      rw [hslots.length_eq] at hrefer
      exact build_template_of_ok status hbuild htexts hrefer

/-- Slots are built, and the arguments have the texts that they mean. -/
theorem SlotsMean.exists_arguments {slots : List (Slot Draft)} {texts : List Text} :
    SlotsMean names stored slots texts →
      ∃ arguments, buildSlots names stored slots = .ok arguments ∧
        arguments.map Argument.display? = texts.map some
  | .nil => ⟨[], rfl, rfl⟩
  | .value h tail => by
      obtain ⟨arguments, hbuild, htexts⟩ := tail.exists_arguments
      refine ⟨_ :: arguments, buildSlots_cons_of_ok rfl hbuild, ?_⟩
      rw [List.map_cons, List.map_cons, h, htexts]
  | .fault h tail => by
      have hslot := buildSlot_fault_of_ok h.build_eq
      obtain ⟨arguments, hbuild, htexts⟩ := tail.exists_arguments
      refine ⟨_ :: arguments, buildSlots_cons_of_ok hslot hbuild, ?_⟩
      rw [List.map_cons, List.map_cons, htexts]
      rfl

end

/-! ## Exchanging arguments -/

/-- The string of a canonical text is displayed as that text, like the fault itself. -/
theorem display?_canonical (e : Fault) :
    (Argument.scalar (.text e.canonical)).display? = some e.canonicalText := by
  simp [Argument.display?, Argument.render?, Scalar.render?, Spec.textual, Spec.pad,
    Fault.canonical]

/-- What an argument is made of does not matter, only its text. -/
theorem SlotsMean.set {x : Argument} {text : Text} (hx : x.display? = some text) :
    ∀ {slots : List (Slot Draft)} {texts : List Text} {i : Nat},
      SlotsMean names stored slots texts → texts[i]? = some text →
      SlotsMean names stored (slots.set i (.value x)) texts
  | _, _, _, .nil, _ => .nil
  | _, _, 0, .value _ tail, htext => by
      obtain rfl := Option.some.inj htext
      exact .value hx tail
  | _, _, 0, .fault _ tail, htext => by
      obtain rfl := Option.some.inj htext
      exact .value hx tail
  | _, _, _ + 1, .value h tail, htext => .value h (tail.set hx htext)
  | _, _, _ + 1, .fault h tail, htext => .fault h (tail.set hx htext)

/-- Every slot is built, and the argument has the text at its position. -/
theorem SlotsMean.exists_argument :
    ∀ {slots : List (Slot Draft)} {texts : List Text} {i : Nat} {slot : Slot Draft},
      SlotsMean names stored slots texts → slots[i]? = some slot →
      ∃ x text, buildSlot names stored slot = .ok x ∧ x.display? = some text ∧
        texts[i]? = some text
  | _, _, 0, _, .value h _, hslot => by
      obtain rfl := Option.some.inj hslot
      exact ⟨_, _, rfl, h, rfl⟩
  | _, _, 0, _, .fault h _, hslot => by
      obtain rfl := Option.some.inj hslot
      exact ⟨_, _, buildSlot_fault_of_ok h.build_eq, rfl, rfl⟩
  | _, _, _ + 1, _, .value _ tail, hslot => tail.exists_argument hslot
  | _, _, _ + 1, _, .fault _ tail, hslot => tail.exists_argument hslot

/-- A slot that becomes a fault stands for its canonical text. -/
theorem SlotsMean.text_of_fault {slots : List (Slot Draft)} {texts : List Text} {i : Nat}
    {slot : Slot Draft} {e : Fault} (h : SlotsMean names stored slots texts)
    (hslot : slots[i]? = some slot)
    (hbuild : buildSlot names stored slot = .ok (.scalar (.fault e))) :
    texts[i]? = some e.canonicalText := by
  obtain ⟨x, text, hx, hdisplay, htext⟩ := h.exists_argument hslot
  rw [hbuild, Except.ok.injEq] at hx
  subst hx
  rw [htext]
  exact hdisplay.symm

/-- A text with arguments is worded as a template. -/
theorem worded_of_ne_nil {slots : List (Slot Draft)} (hslots : slots ≠ []) (status : Int32)
    (text : String) : Draft.worded status text slots = .template status text slots := by
  cases slots with
  | nil => exact absurd rfl hslots
  | cons slot slots => rfl

/-- **The two ways to give a message agree**, where there are arguments.  A template
that spells segments, with arguments that stand for texts, builds the fault that is
made by handing over the wording as it is.  Each fault among the arguments is built,
and its text is its canonical one; putting the string of that text in its place
changes nothing. -/
theorem worded_eq_verbatim {slots : List (Slot Draft)} {texts : List Text}
    {segments : List Segment} (hslots : SlotsMean names stored slots texts)
    (hrefer : Segment.AllRefer names slots.length segments) (harguments : slots ≠ [])
    (status : Int32) :
    let message := String.ofList (Segment.wording names texts segments)
    (Draft.worded status (Segment.template segments) slots).build names stored =
      (Draft.verbatim status message).build names stored ∧
    (∀ (i : Nat) (d : Draft), slots[i]? = some (.fault d) →
      ∃ e : Fault, d.build names stored = .ok e) ∧
    ∀ (i : Nat) (slot : Slot Draft) (e : Fault), slots[i]? = some slot →
      buildSlot names stored slot = .ok (.scalar (.fault e)) →
      texts[i]? = some e.canonical.toList ∧
      (Draft.worded status (Segment.template segments)
        (slots.set i (.value (.scalar (.text e.canonical))))).build names stored =
        (Draft.verbatim status message).build names stored := by
  intro message
  refine ⟨?_, ?_, ?_⟩
  · rw [worded_of_ne_nil harguments]
    exact (Draft.Means.template status hslots hrefer).build_eq
  · intro i d hslot
    obtain ⟨x, text, hx, -⟩ := hslots.exists_argument hslot
    cases hbuild : d.build names stored with
    | ok e => exact ⟨e, rfl⟩
    | error error =>
        rw [buildSlot, hbuild] at hx
        cases hx
  · intro i slot e hslot hbuild
    have htext := hslots.text_of_fault hslot hbuild
    have hset := hslots.set (display?_canonical e) htext
    refine ⟨?_, ?_⟩
    · rw [Fault.canonical, String.toList_ofList]
      exact htext
    · have hne : slots.set i (.value (.scalar (.text e.canonical))) ≠ [] := by
        rwa [Ne, List.set_eq_nil_iff]
      rw [worded_of_ne_nil hne]
      apply (Draft.Means.template status hset _).build_eq
      rwa [List.length_set]

/-- The template `{{{}}}% {b}{0}{}`, whose second argument is worded by `{}{{`.  The
braces of the first argument are not read again, and the last place takes
the second argument although another place has named it. -/
theorem worded_eq_verbatim_nested :
    let segments : List Segment := [.literal "\x7b", .place .next, .literal "\x7d% ",
      .place (.name "b"), .place (.index 0), .place .next]
    let inner : List Segment := [.place .next, .literal "\x7b"]
    let slots : List (Slot Draft) := [.value (.scalar (.text "\x7b\x7d%")),
      .fault (.template 7 (Segment.template inner) [.value (.scalar (.integer .status 5))])]
    Segment.template segments = "\x7b\x7b\x7b\x7d\x7d\x7d% \x7bb\x7d\x7b0\x7d\x7b\x7d" ∧
      Segment.template inner = "\x7b\x7d\x7b\x7b" ∧
      (Draft.worded 1 (Segment.template segments) slots).build ["a", "b"] (fun _ => none) =
        .ok ⟨1, "\x7b\x7b\x7d%\x7d% errCode: 7, errMsg: 5\x7b" ++
          "\x7b\x7d%errCode: 7, errMsg: 5\x7b"⟩ := by
  intro segments inner slots
  have hinner : SlotsMean ["a", "b"] (fun _ => none) [.value (.scalar (.integer .status 5))]
      ["5".toList] := .value (by decide) .nil
  have hfault : Draft.Means ["a", "b"] (fun _ => none) (.template 7 (Segment.template inner)
      [.value (.scalar (.integer .status 5))]) ⟨7, "5\x7b"⟩ :=
    .template 7 hinner (by decide)
  have htext : (Argument.scalar (.text "\x7b\x7d%")).display? = some "\x7b\x7d%".toList := by
    decide
  have hslots : SlotsMean ["a", "b"] (fun _ => none) slots
      ["\x7b\x7d%".toList, "errCode: 7, errMsg: 5\x7b".toList] :=
    .value htext (.fault hfault .nil)
  have hrefer : Segment.AllRefer ["a", "b"] slots.length segments := by decide
  refine ⟨by decide, by decide, ?_⟩
  have harguments : slots ≠ [] := List.cons_ne_nil _ _
  rw [(worded_eq_verbatim hslots hrefer harguments 1).1]
  decide

/-- Without arguments the two ways part: the text `{{` spells a brace, and its wording
is one brace, but both braces are kept. -/
theorem lone_brace_is_kept :
    let segments : List Segment := [.literal "\x7b"]
    SlotsMean [] (fun _ => none) [] [] ∧ Segment.AllRefer [] 0 segments ∧
      Segment.template segments = "\x7b\x7b" ∧ Segment.wording [] [] segments = ['{'] ∧
      (Draft.worded 7 (Segment.template segments) []).build [] (fun _ => none) =
        .ok ⟨7, "\x7b\x7b"⟩ ∧
      (Draft.worded 7 (Segment.template segments) []).build [] (fun _ => none) ≠
        (Draft.verbatim 7 (String.ofList (Segment.wording [] [] segments))).build []
          (fun _ => none) := by
  intro segments
  exact ⟨.nil, by decide, by decide, by decide, by decide, by decide⟩

end Faults
