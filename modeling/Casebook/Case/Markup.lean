import Casebook.Case.Basic

/-! # RFML

    The text of a test case as the platform reads it: a header of lines that
    start with `#`, a bare `#`, an empty line, and then for each step its
    instruction, its question and an empty line.  Labels, order and spaces are
    fixed.
-/

namespace Casebook.Case

/-- The labelled lines of the header. -/
def headerLines (c : Case) : List Text :=
  ["#! ".toList ++ c.id,
   "# title: ".toList ++ c.title,
   "# site_id: ".toList ++ c.siteId.getD [],
   "# start_uri: ".toList ++ c.path,
   "# tags: ".toList ++ Text.joinWith ", ".toList c.tags,
   "# browsers: ".toList ++ Text.joinWith [' '] c.browsers]

/-- The line of a case that is switched off. -/
def stateLines (c : Case) : List Text :=
  if c.disabled then ["# state: disabled".toList] else []

/-- The lines of a step. -/
def stepLines (step : Step) : List Text :=
  [step.instruction, step.question, []]

/-- All lines of a case. -/
def lines (c : Case) : List Text :=
  c.headerLines ++ c.stateLines ++ [['#'], []] ++ c.steps.flatMap stepLines

/-- The text of a case. -/
def render (c : Case) : Text :=
  Text.joinWith ['\n'] c.lines

/-- The name of the file that a case is saved in. -/
def fileName (c : Case) : Text :=
  c.id ++ ".rfml".toList

end Casebook.Case
