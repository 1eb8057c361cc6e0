import Casebook.Proofs.Step.Forms
import Casebook.Proofs.Text.LineEnds

/-! # Line ends in steps

    Steps that are declared with other line ends have the same words, and their
    texts are empty in the same cases (`Step.Alike`).  That is all that the next
    declaration and the normal form ask of a step: whatever is declared, outlines
    with alike steps stay alike (`Outline.Alike.instruct`, `Outline.Alike.ask`)
    and are committed alike (`Outline.Alike.commit_eq`).
-/

namespace Casebook

open Text Marker

/-! ## Alike steps -/

/-- The steps have the same words, and what is empty in one is so in the other. -/
structure Step.Alike (step other : Step) : Prop where
  instruction : words step.instruction = words other.instruction
  question : words step.question = words other.question
  noInstruction : step.instruction = [] ↔ other.instruction = []
  noQuestion : step.question = [] ↔ other.question = []

namespace Step

theorem Alike.isOpen_eq {step other : Step} (h : step.Alike other) :
    step.isOpen = other.isOpen := by
  rw [Bool.eq_iff_iff]
  unfold isOpen
  rw [List.isEmpty_iff, List.isEmpty_iff]
  exact h.noQuestion

theorem Alike.isEmpty_instruction_eq {step other : Step} (h : step.Alike other) :
    step.instruction.isEmpty = other.instruction.isEmpty := by
  rw [Bool.eq_iff_iff, List.isEmpty_iff, List.isEmpty_iff]
  exact h.noInstruction

theorem Alike.normal_eq {step other : Step} (h : step.Alike other) :
    step.normal = other.normal :=
  normal_eq_of_words_eq h.instruction h.question

theorem alike_refl (step : Step) : step.Alike step :=
  ⟨rfl, rfl, Iff.rfl, Iff.rfl⟩

/-- The parts that are put behind alike instructions may differ in their line
    ends. -/
theorem Alike.extend {step other : Step} (h : step.Alike other) (text : Text) :
    (step.extend (withReturns text)).Alike (other.extend text) where
  instruction := by
    show words (step.instruction ++ ' ' :: withReturns text) =
      words (other.instruction ++ ' ' :: text)
    rw [words_append_cons isBlank_space, words_append_cons isBlank_space, h.instruction,
      words_withReturns]
  question := h.question
  noInstruction := by simp [Step.extend]
  noQuestion := h.noQuestion

/-! ## Questions -/

theorem words_strip_withReturns (text : Text) :
    words (strip (withReturns text)) = words (strip text) :=
  words_strip_eq (words_withReturns text)

/-- What is left behind a marker is empty if it is blank. -/
theorem stripMore_eq_nil_iff {rest : Text} : stripMore rest = [] ↔ Blank (stripMore rest) := by
  rw [← trimStart_eq_nil_iff, trimStart_eq_self (startsBlank_stripMore rest)]

theorem strip_eq_nil_iff {line : Text} :
    strip line = [] ↔ line = [] ∨ starts line = true ∧ words (strip line) = [] := by
  cases hstarts : starts line with
  | true =>
    have hne : line ≠ [] := by
      rintro rfl
      cases hstarts
    rw [strip_of_starts hstarts, words_eq_nil_iff, stripMore_eq_nil_iff]
    simp [hne]
  | false =>
    rw [strip_of_not_starts hstarts]
    simp

theorem strip_withReturns_eq_nil_iff {text : Text} :
    strip (withReturns text) = [] ↔ strip text = [] := by
  rw [strip_eq_nil_iff, strip_eq_nil_iff, withReturns_eq_nil_iff, words_strip_withReturns,
    starts_eq_of_words_eq (words_withReturns text)]

/-- A question that is attached to alike steps may differ in its line ends. -/
theorem Alike.ask {step other : Step} (h : step.Alike other) (text : Text) :
    Alike { step with question := strip (withReturns text) }
      { other with question := strip text } where
  instruction := h.instruction
  question := words_strip_withReturns text
  noInstruction := h.noInstruction
  noQuestion := strip_withReturns_eq_nil_iff

/-! ## Combined steps -/

theorem questionLine_returned (lines : List Text) :
    questionLine (returned lines) = questionLine lines := by
  have hstarts : (returned lines).map starts = lines.map starts := by
    apply map_returned
    intro line
    exact starts_eq_of_words_eq (words_line_return line)
  have hfind (lines : List Text) : lines.findIdx? starts = (lines.map starts).findIdx? id := by
    rw [List.findIdx?_map]
    rfl
  have hlength : (returned lines).length = lines.length := by
    simpa using congrArg List.length hstarts
  unfold questionLine
  rw [hfind, hstarts, ← hfind, hlength]

/-- The words of stripped lines, of which some may have a return. -/
theorem map_words_strip_returned (lines : List Text) :
    ((returned lines).map strip).map words = (lines.map strip).map words := by
  rw [List.map_map, List.map_map]
  apply map_returned
  intro line
  exact words_strip_eq (words_line_return line)

/-- Of several lines that are joined there is a space at least, and a single line
    has no return. -/
theorem joinWith_strip_returned_eq_nil_iff (lines : List Text) :
    joinWith [' '] ((returned lines).map strip) = [] ↔ joinWith [' '] (lines.map strip) = [] := by
  match lines with
  | [] => exact Iff.rfl
  | [_] => exact Iff.rfl
  | [line, next] => simp [returned, joinWith_cons_cons]
  | line :: next :: later :: rest => simp [returned, joinWith_cons_cons]

/-- **Combined steps are alike** if their texts differ in their line ends. -/
theorem alike_ofText (text : Text) : (ofText (withReturns text)).Alike (ofText text) := by
  have hwords : words (ofText (withReturns text)).instruction =
      words (ofText text).instruction := by
    unfold ofText
    simp only [trim_withReturns, split_withReturns, questionLine_returned]
    rw [words_joinWith isBlank_space, words_joinWith isBlank_space, List.flatMap_def,
      List.flatMap_def, List.map_take, List.map_take, map_words_strip_returned]
  refine ⟨hwords, ?_, ?_, ?_⟩
  · unfold ofText
    simp only [trim_withReturns, split_withReturns, questionLine_returned]
    rw [words_joinWith isBlank_space, words_joinWith isBlank_space, List.flatMap_def,
      List.flatMap_def, List.map_drop, List.map_drop, map_words_strip_returned]
  · rw [instruction_ofText_eq_nil_iff, instruction_ofText_eq_nil_iff, hwords]
  · unfold ofText
    simp only [trim_withReturns, split_withReturns, questionLine_returned, ← List.map_drop,
      returned_drop]
    exact joinWith_strip_returned_eq_nil_iff _

end Step

/-! ## Alike outlines -/

namespace Outline

/-- The outlines have alike steps. -/
inductive Alike : Outline → Outline → Prop
  | empty : Alike {} {}
  | push {outline other : Outline} {step step' : Step} (h : Alike outline other)
      (hstep : step.Alike step') : Alike (outline.push step) (other.push step')

variable {outline other : Outline}

theorem Alike.add (h : Alike outline other) (text : Text) :
    Alike (outline.add (withReturns text)) (other.add text) :=
  h.push (Step.alike_ofText text)

theorem Alike.instruct (h : Alike outline other) (text : Text) :
    Alike (outline.instruct (withReturns text)) (other.instruct text) := by
  have hnew : (Step.extend {} (withReturns text)).Alike (Step.extend {} text) :=
    (Step.alike_refl {}).extend text
  cases h with
  | empty => exact Alike.empty.push hnew
  | push h hstep =>
    rw [instruct_push, instruct_push, hstep.isOpen_eq]
    split
    · exact h.push (hstep.extend text)
    · exact (h.push hstep).push hnew

/-- A question can be attached to alike outlines in the same cases. -/
theorem Alike.ask (h : Alike outline other) (text : Text) :
    (∃ next next', outline.ask (withReturns text) = .ok next ∧ other.ask text = .ok next' ∧
        Alike next next') ∨
      ∃ cause, outline.ask (withReturns text) = .error cause ∧ other.ask text = .error cause := by
  cases h with
  | empty => exact Or.inr ⟨.noOpenStep, rfl, rfl⟩
  | push h hstep =>
    rw [ask_push, ask_push, hstep.isEmpty_instruction_eq, hstep.isOpen_eq]
    split
    · exact Or.inr ⟨_, rfl, rfl⟩
    · split
      · exact Or.inl ⟨_, _, rfl, rfl, h.push (hstep.ask text)⟩
      · exact Or.inr ⟨_, rfl, rfl⟩

/-- **Alike outlines are committed alike**, with the same steps or the same fault. -/
theorem Alike.commit_eq (h : Alike outline other) : outline.commit = other.commit := by
  have hsteps : outline.steps.map Step.normal = other.steps.map Step.normal := by
    induction h with
    | empty => rfl
    | push h hstep ih =>
      unfold Outline.push
      rw [List.map_append, List.map_append, ih, List.map_singleton, List.map_singleton,
        hstep.normal_eq]
  unfold commit
  rw [hsteps]

end Outline

end Casebook
