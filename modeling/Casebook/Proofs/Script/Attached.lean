import Casebook.Proofs.Book.Submit
import Casebook.Proofs.Script.Kept
import Casebook.Proofs.Step.Marks
import Casebook.Proofs.Text.Ending

/-! # Attached questions

    What holds of a step when a question was attached to it.

    * It takes no second question if the first one is more than markers
      (`Script.second_question_refused`).  Of a question that is nothing but
      markers nothing is left, so the step goes on waiting, as it was.
    * Its instruction holds the words of all texts that went into it
      (`Outline.Reached.words_instruction`); there is such a list of texts for
      every outline of a script (`Script.exists_reached_run`).  So the instruction
      is blank only if each of them is, and otherwise the step is never committed
      with a blank instruction (`Script.attached_instruction`).
-/

namespace Casebook

open Text Marker

/-! ## A second question -/

namespace Outline

/-- A question that is nothing but markers changes nothing. -/
theorem eq_of_ask_onlyMarks {outline next : Outline} {text : Text} (htext : OnlyMarks text)
    (h : outline.ask text = .ok next) : next = outline := by
  obtain ⟨front, last, rfl, -, hopen, rfl⟩ := exists_push_of_ask h
  rw [strip_eq_nil_iff_onlyMarks.2 htext, ← hopen]

/-- After any other one the step does not wait any more. -/
theorem ask_of_ask {outline next : Outline} {text : Text} (htext : ¬ OnlyMarks text)
    (h : outline.ask text = .ok next) (second : Text) :
    next.ask second = .error .questionAlreadySet := by
  obtain ⟨front, last, rfl, hinstruction, -, rfl⟩ := exists_push_of_ask h
  have hclosed : strip text ≠ [] := fun hnil => htext (strip_eq_nil_iff_onlyMarks.1 hnil)
  rw [ask_push]
  simp [Step.isOpen, hinstruction, hclosed]

end Outline

namespace Script

variable {ρ α : Type} {heading : Heading}

theorem run_tryQuestion_of_error {outline : Outline} {text : Text} {cause : IncompleteStep}
    (h : outline.ask text = .error cause) :
    (tryQuestion text : Script ρ _).run heading outline =
      { outcome := .ok (.error cause), outline } := by
  rw [tryQuestion, run, h]
  rfl

/-- **A step takes one question**: when a question was attached, a second one is
    refused and changes nothing, exactly if the first one is more than markers.
    A question that is nothing but markers leaves the steps as they were. -/
theorem second_question_refused {before next : Outline} {first : Text}
    (h : before.ask first = .ok next) (second : Text) :
    ((tryQuestion second : Script ρ _).run heading next =
        { outcome := .ok (.error .questionAlreadySet), outline := next } ↔ ¬ OnlyMarks first) ∧
      (OnlyMarks first → next = before) := by
  refine ⟨⟨?_, ?_⟩, fun hfirst => Outline.eq_of_ask_onlyMarks hfirst h⟩
  · -- The step that still waits takes the second question as it took the first.
    intro hrun hfirst
    obtain rfl := Outline.eq_of_ask_onlyMarks hfirst h
    obtain ⟨last, hlast, hinstruction, hopen, -⟩ := Outline.ask_eq_ok_iff.1 h
    have hask : next.ask second =
        .ok (next.replaceLast { last with question := strip second }) :=
      Outline.ask_eq_ok_iff.2 ⟨last, hlast, hinstruction, hopen, rfl⟩
    rw [tryQuestion, run, hask] at hrun
    cases hrun
  · intro hfirst
    exact run_tryQuestion_of_error (Outline.ask_of_ask hfirst h second)

/-- A question behind several markers, after which a better one is refused. -/
theorem second_question_refused_marked :
    let before := ({} : Outline).instruct "Do X.".toList
    let next : Outline := ⟨[{ instruction := " Do X.".toList, question := "Now?".toList }]⟩
    before.ask " Q: q.\n Now?".toList = .ok next ∧
      ∀ heading : Heading, ((tryQuestion "Did it happen?".toList : Script Empty _).run heading next =
          { outcome := .ok (.error .questionAlreadySet), outline := next } ↔
        ¬ OnlyMarks " Q: q.\n Now?".toList) := by
  intro before next
  have hask : before.ask " Q: q.\n Now?".toList = .ok next := by decide +kernel
  exact ⟨hask, fun heading => (second_question_refused hask _).1⟩

/-- After a question that is a marker and nothing else, a second one is attached. -/
theorem second_question_attached :
    let before := ({} : Outline).instruct "Do X.".toList
    before.ask "Q:".toList = .ok before ∧
      before.ask "Did it happen?".toList =
        .ok ⟨[{ instruction := " Do X.".toList, question := "Did it happen?".toList }]⟩ := by
  decide +kernel

end Script

/-! ## What goes into an instruction -/

namespace Outline

/-- Declarations lead from the empty outline to this one, and these are the texts
    that went into the instruction of its last step: what a combined step began
    with, and what instructions gave. -/
inductive Reached : Outline → List Text → Prop
  | empty : Reached {} []
  | add {outline : Outline} {parts : List Text} (h : Reached outline parts) (text : Text) :
      Reached (outline.add text) [(Step.ofText text).instruction]
  | opened {outline : Outline} {parts : List Text} (h : Reached outline parts)
      (hsettled : outline.Settled) (text : Text) : Reached (outline.instruct text) [text]
  | extended {outline : Outline} {parts : List Text} (h : Reached outline parts)
      (hwaits : ¬ outline.Settled) (text : Text) :
      Reached (outline.instruct text) (parts ++ [text])
  | asked {outline next : Outline} {parts : List Text} (h : Reached outline parts) {text : Text}
      (hask : outline.ask text = .ok next) : Reached next parts

/-- **No word of an instruction is lost**, and none is added. -/
theorem Reached.words_instruction {outline : Outline} {parts : List Text}
    (h : outline.Reached parts) {last : Step} (hlast : outline.last? = some last) :
    words last.instruction = parts.flatMap words := by
  induction h generalizing last with
  | empty => cases hlast
  | add h text =>
    rw [Outline.add, last?_push, Option.some.injEq] at hlast
    rw [← hlast, List.flatMap_singleton]
  | opened h hsettled text =>
    rw [instruct_of_settled hsettled, last?_push, Option.some.injEq] at hlast
    rw [← hlast, List.flatMap_singleton]
    exact words_cons_of_blank isBlank_space text
  | @extended outline parts h hwaits text ih =>
    rcases instruct_cases outline text with ⟨hsettled, -⟩ | ⟨front, step, rfl, -, hinstruct⟩
    · exact absurd hsettled hwaits
    · rw [hinstruct, last?_push, Option.some.injEq] at hlast
      rw [← hlast, List.flatMap_append, List.flatMap_singleton, ← ih (last?_push front step)]
      exact words_append_cons isBlank_space step.instruction text
  | asked h hask ih =>
    obtain ⟨front, step, rfl, -, -, rfl⟩ := exists_push_of_ask hask
    rw [last?_push, Option.some.injEq] at hlast
    rw [← hlast, ← ih (last?_push front step)]

/-! ## Words that stay -/

/-- The instruction of the step at this place has a word. -/
def WordedAt (place : Nat) (outline : Outline) : Prop :=
  ∃ step, outline.steps[place]? = some step ∧ ¬ Blank step.instruction

theorem wordedAt_push_iff {place : Nat} {front : Outline} {last : Step} :
    (front.push last).WordedAt place ↔
      front.WordedAt place ∨ place = front.steps.length ∧ ¬ Blank last.instruction := by
  unfold WordedAt push
  rcases Nat.lt_trichotomy place front.steps.length with hplace | rfl | hplace
  · rw [List.getElem?_append_left hplace]
    simp [Nat.ne_of_lt hplace]
  · simp
  · have hfront : front.steps[place]? = none := List.getElem?_eq_none (Nat.le_of_lt hplace)
    have hall : (front.steps ++ [last])[place]? = none :=
      List.getElem?_eq_none (by simpa [Nat.succ_le_iff] using hplace)
    simp [hfront, hall, Nat.ne_of_gt hplace]

/-- **A word of an instruction stays**, whatever is declared next. -/
theorem wordedAt_invariant (place : Nat) : Invariant (WordedAt place) where
  add outline text h := wordedAt_push_iff.2 (Or.inl h)
  instruct outline text h := by
    rcases instruct_cases outline text with ⟨-, hinstruct⟩ | ⟨front, last, rfl, -, hinstruct⟩
    · rw [hinstruct]
      exact wordedAt_push_iff.2 (Or.inl h)
    · -- What is put behind the instruction of the last step takes no word away.
      rw [hinstruct]
      refine wordedAt_push_iff.2 ((wordedAt_push_iff.1 h).imp_right ?_)
      rintro ⟨hplace, hworded⟩
      exact ⟨hplace, fun hblank => hworded fun c hc => hblank c (List.mem_append_left _ hc)⟩
  ask outline text next h hask := by
    obtain ⟨front, last, rfl, -, -, rfl⟩ := exists_push_of_ask hask
    have hworded := wordedAt_push_iff.1 h
    exact wordedAt_push_iff.2 hworded

/-- A word of an instruction is committed. -/
theorem WordedAt.commit {place : Nat} {outline : Outline} (h : outline.WordedAt place)
    {steps : List Step} (hcommit : outline.commit = .ok steps) :
    ∃ step, steps[place]? = some step ∧ ¬ Blank step.instruction := by
  obtain ⟨step, hstep, hworded⟩ := h
  obtain ⟨rfl, -⟩ := commit_eq_ok_iff.1 hcommit
  refine ⟨step.normal, by rw [List.getElem?_map, hstep, Option.map_some], ?_⟩
  exact fun hblank => hworded (blank_normalize_iff.1 hblank)

/-- What is declared next leads on from an outline that declarations lead to. -/
theorem reached_invariant : Invariant fun outline => ∃ parts, outline.Reached parts where
  add _ text := fun ⟨_, h⟩ => ⟨_, h.add text⟩
  instruct outline text := by
    rintro ⟨parts, h⟩
    by_cases hsettled : outline.Settled
    · exact ⟨_, h.opened hsettled text⟩
    · exact ⟨_, h.extended hsettled text⟩
  ask _ _ _ := fun ⟨_, h⟩ hask => ⟨_, h.asked hask⟩

end Outline

namespace Script

variable {ρ α : Type} {heading : Heading}

/-- Every outline of a script is one that declarations lead to. -/
theorem exists_reached_run (script : Script ρ α) :
    ∃ parts, (script.run heading {}).outline.Reached parts :=
  run_invariant Outline.reached_invariant script ⟨[], .empty⟩

/-- **A question is attached to an instruction**: to the one of the last step,
    which is empty in its normal form exactly if all texts that went into it are
    blank.  If one of them is not, then whatever a script declares from there on,
    the step is not committed with a blank instruction. -/
theorem attached_instruction {outline next : Outline} {parts : List Text}
    (h : outline.Reached parts) {question : Text} (hask : outline.ask question = .ok next) :
    ∃ front last, outline = Outline.push front last ∧
      next = front.push { last with question := strip question } ∧
      (normalize last.instruction = [] ↔ ∀ part ∈ parts, Blank part) ∧
      ((∃ part ∈ parts, ¬ Blank part) →
        ∀ (heading : Heading) (later : Script ρ α) (steps : List Step),
          (later.run heading next).outline.commit = .ok steps →
          ∃ step, steps[front.steps.length]? = some step ∧ ¬ Blank step.instruction) := by
  obtain ⟨front, last, rfl, -, -, rfl⟩ := Outline.exists_push_of_ask hask
  have hblank : Blank last.instruction ↔ ∀ part ∈ parts, Blank part := by
    rw [← words_eq_nil_iff, h.words_instruction (Outline.last?_push front last),
      List.flatMap_eq_nil_iff]
    simp only [words_eq_nil_iff]
  refine ⟨front, last, rfl, rfl, normalize_eq_nil_iff.trans hblank, ?_⟩
  rintro ⟨part, hpart, hsolid⟩ heading later steps hcommit
  -- The step that got the question has a word from now on.
  have hworded : (front.push { last with question := strip question }).WordedAt
      front.steps.length :=
    Outline.wordedAt_push_iff.2 (Or.inr ⟨rfl, fun hall => hsolid (hblank.1 hall part hpart)⟩)
  exact (run_invariant (Outline.wordedAt_invariant _) later hworded).commit hcommit

/-- An instruction of a blank text and one that is not: a question is attached,
    and nothing that follows makes the instruction blank. -/
theorem attached_instruction_spaced :
    let outline := (({} : Outline).instruct " ".toList).instruct "Press it.".toList
    let next : Outline :=
      ⟨[{ instruction := "   Press it.".toList, question := "Lit?".toList }]⟩
    outline.Reached [" ".toList, "Press it.".toList] ∧ outline.ask "Q: Lit?".toList = .ok next ∧
      ∀ (heading : Heading) (later : Script Empty Unit) (steps : List Step),
        (later.run heading next).outline.commit = .ok steps →
          ∃ step, steps[0]? = some step ∧ ¬ Blank step.instruction := by
  intro outline next
  have hwaits : ¬ (({} : Outline).instruct " ".toList).Settled :=
    Outline.not_settled_push rfl {}
  have hreached : outline.Reached [" ".toList, "Press it.".toList] :=
    (Outline.Reached.opened .empty Outline.settled_empty _).extended hwaits _
  have hask : outline.ask "Q: Lit?".toList = .ok next := by decide +kernel
  refine ⟨hreached, hask, ?_⟩
  obtain ⟨front, last, houtline, -, -, hcommitted⟩ := attached_instruction hreached hask
  have hfront : front.steps.length = 0 := by
    have hone : outline.steps.length = 1 := by decide +kernel
    rw [houtline, Outline.push, List.length_append, List.length_singleton] at hone
    omega
  rw [hfront] at hcommitted
  exact hcommitted ⟨"Press it.".toList, by simp, by decide +kernel⟩

/-- An empty text is enough of an instruction: the question is attached, and the
    step is committed with nothing in front of it. -/
theorem blank_instruction_attached :
    let next : Outline := ⟨[{ instruction := " ".toList, question := "Do you see it?".toList }]⟩
    (({} : Outline).instruct []).ask "Do you see it?".toList = .ok next ∧
      normalize " ".toList = [] ∧
      next.commit = .ok [{ instruction := [], question := "Do you see it?".toList }] := by
  decide +kernel

end Script

end Casebook
