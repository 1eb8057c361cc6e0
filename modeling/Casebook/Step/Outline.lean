import Casebook.Step.Basic
import Casebook.Step.Marker

/-! # Outlines

    An outline holds the steps that a case has declared so far, with their
    texts as given.  A step is declared in one call (`Outline.add`), or split
    into instructions and a question (`Outline.instruct`, `Outline.ask`), so
    that one instruction can branch into different questions.
-/

namespace Casebook

/-- Why a question cannot be attached to a step. -/
inductive IncompleteStep where
  /-- no step was declared yet -/
  | noOpenStep
  /-- the last step has no instruction -/
  | missingInstruction
  /-- the last step has its question -/
  | questionAlreadySet
  deriving DecidableEq, Repr

/-- What is wrong, in words. -/
def IncompleteStep.message : IncompleteStep → Text
  | .noOpenStep => "there are no steps to add a question to".toList
  | .missingInstruction => "can't add a question until the step has an instruction".toList
  | .questionAlreadySet => "the last step already has a question".toList

/-- The steps declared so far, in order. -/
structure Outline where
  steps : List Step := []
  deriving DecidableEq, Repr

/-! ## Steps in one piece -/

/-- The index of the line that the question of a combined step starts at: the
    first line with a marker, or else the last line. -/
def Step.questionLine (lines : List Text) : Nat :=
  (lines.findIdx? Marker.starts).getD (lines.length - 1)

/-- **A combined step.**  Of the lines of the trimmed text, those from the
    question line on are the question and those before it the instruction;
    leading markers are removed from every line, and lines are joined by a
    space. -/
def Step.ofText (text : Text) : Step :=
  let lines := Text.split '\n' (Text.trim text)
  let stripped := lines.map Marker.strip
  { instruction := Text.joinWith [' '] (stripped.take (Step.questionLine lines))
    question := Text.joinWith [' '] (stripped.drop (Step.questionLine lines)) }

namespace Outline

/-- The last step declared. -/
def last? (outline : Outline) : Option Step :=
  outline.steps.getLast?

/-- The outline with a further step. -/
def push (outline : Outline) (step : Step) : Outline :=
  ⟨outline.steps ++ [step]⟩

/-- The outline with another step in the place of its last one. -/
def replaceLast (outline : Outline) (step : Step) : Outline :=
  ⟨outline.steps.dropLast ++ [step]⟩

/-- Declares a combined step. -/
def add (outline : Outline) (text : Text) : Outline :=
  outline.push (Step.ofText text)

/-! ## Steps in two parts -/

/-- Extends the instruction of the last step while it waits for its question,
    and otherwise opens a new step. -/
def instruct (outline : Outline) (text : Text) : Outline :=
  match outline.last? with
  | none => outline.push (Step.extend {} text)
  | some last =>
    if last.isOpen then outline.replaceLast (last.extend text)
    else outline.push (Step.extend {} text)

/-- Attaches a question, without its leading markers, to the last step.  The
    step must have an instruction and no question. -/
def ask (outline : Outline) (text : Text) : Except IncompleteStep Outline :=
  match outline.last? with
  | none => .error .noOpenStep
  | some last =>
    if last.instruction.isEmpty then .error .missingInstruction
    else if last.isOpen then
      .ok (outline.replaceLast { last with question := Marker.strip text })
    else .error .questionAlreadySet

end Outline

end Casebook
