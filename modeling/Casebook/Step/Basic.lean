import Casebook.Text.Normal

/-! # Steps

    A step is an instruction and the question that checks it.  While a case is
    being written its texts are kept as they were given; `Step.normal` is the
    form they are committed in.
-/

namespace Casebook

/-- An instruction and the question that checks it. -/
structure Step where
  instruction : Text := []
  question : Text := []
  deriving DecidableEq, Repr

namespace Step

/-- The step with both texts in normal form and its question mark apart from a
    quoted term. -/
def normal (step : Step) : Step where
  instruction := Text.normalize step.instruction
  question := Text.spaceQuotedEnd (Text.normalize step.question)

/-- Does the question end with a question mark? -/
def asks (step : Step) : Bool :=
  step.question.getLast? == some '?'

/-- Is the step still waiting for its question? -/
def isOpen (step : Step) : Bool :=
  step.question.isEmpty

/-- The step with a further part of its instruction. -/
def extend (step : Step) (text : Text) : Step :=
  { step with instruction := step.instruction ++ ' ' :: text }

end Step

end Casebook
