import Casebook.Case.Heading
import Casebook.Step.Basic

/-! # Test cases

    A test case is a heading and the steps in their committed form.
-/

namespace Casebook

/-- A heading with steps. -/
structure Case extends Heading where
  steps : List Step := []
  deriving DecidableEq, Repr

end Casebook
