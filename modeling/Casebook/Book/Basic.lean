import Casebook.Book.Notice
import Casebook.Case.Basic
import Casebook.Script

/-! # The case book

    A book takes submissions one after the other.  A submission is an id, the
    metadata of a case and the script that declares its steps; it is committed
    as a case or refused with a fault (`Book.submit`).

    Ids and titles are taken as soon as their checks pass, also by submissions
    that are refused later.  A refusal stops nothing: the partial case is
    dropped and the next submission is looked at.
-/

namespace Casebook

/-- A case handed in: its id, what is declared about it, and its script. -/
structure Submission (ρ : Type) where
  id : Text
  metadata : Metadata := {}
  script : Script ρ Unit

/-- A submission that was refused. -/
structure Failure where
  id : Text
  fault : Fault
  deriving DecidableEq, Repr

/-- What became of a submission. -/
structure Report (ρ : Type) where
  outcome : Except Fault Case
  /-- did its script run? -/
  started : Bool := false
  /-- the remarks of its script -/
  remarks : List ρ := []

/-- The cases of a build. -/
structure Book where
  config : Configuration := {}
  /-- the committed cases, in order -/
  cases : List Case := []
  /-- the refused submissions, in order -/
  failures : List Failure := []
  /-- ids that are taken -/
  ids : List Text := []
  /-- titles that are taken -/
  titles : List Text := []

/-! ## Committing -/

/-- The steps of an outline in normal form, if each of them asks a question. -/
def Outline.commit (outline : Outline) : Except Fault (List Step) :=
  let steps := outline.steps.map Step.normal
  match steps.find? fun step => !step.asks with
  | some step => .error (.malformedQuestion step.question)
  | none => .ok steps

/-- The case that a script makes of a heading, unless it gives up or asks
    something that is no question. -/
def Submission.complete {ρ : Type} (submission : Submission ρ) (heading : Heading) : Report ρ :=
  let run := submission.script.run heading {}
  let outcome := do
    run.outcome
    let steps ← run.outline.commit
    .ok { heading with steps }
  { outcome, started := true, remarks := run.remarks }

namespace Book

variable {ρ : Type}

/-- A book without cases. -/
def empty (config : Configuration) : Book :=
  { config }

/-- The book with one more committed case. -/
def commit (book : Book) (c : Case) : Book :=
  { book with cases := book.cases ++ [c] }

/-- The book with one more refusal. -/
def refuse (book : Book) (id : Text) (fault : Fault) : Book :=
  { book with failures := book.failures ++ [⟨id, fault⟩] }

/-- The book with one more id taken. -/
def takeId (book : Book) (id : Text) : Book :=
  { book with ids := book.ids ++ [id] }

/-- The book with one more title taken. -/
def takeTitle (book : Book) (title : Text) : Book :=
  { book with titles := book.titles ++ [title] }

/-- The book after a report on a submission. -/
def record (book : Book) (id : Text) (report : Report ρ) : Book :=
  match report.outcome with
  | .ok c => book.commit c
  | .error fault => book.refuse id fault

/-- What becomes of a submission, and the book with its id and title taken. -/
def examine (book : Book) (submission : Submission ρ) : Book × Report ρ :=
  let id := submission.id
  if (Text.trim id).isEmpty then (book, { outcome := .error .missingIdentifier })
  else if book.ids.contains id then (book, { outcome := .error (.duplicateIdentifier id) })
  else
    let heading := book.config.heading id submission.metadata
    let book := book.takeId id
    if book.titles.contains heading.title then
      (book, { outcome := .error (.duplicateTitle heading.title) })
    else (book.takeTitle heading.title, submission.complete heading)

/-- **Submitting.**  A submission is refused for a blank id, an id that is taken
    or a title that is taken, in this order; otherwise its script runs and
    decides. -/
def submit (book : Book) (submission : Submission ρ) : Book × Report ρ :=
  let (book, report) := book.examine submission
  (book.record submission.id report, report)

/-- The book after a list of submissions, with the report on each. -/
def submitAll (book : Book) : List (Submission ρ) → Book × List (Report ρ)
  | [] => (book, [])
  | submission :: rest =>
    let (book, report) := book.submit submission
    let (book, reports) := book.submitAll rest
    (book, report :: reports)

/-- Has no submission been refused? -/
def isSuccessful (book : Book) : Bool :=
  book.failures.isEmpty

end Book

/-- The notice of a report on a submission. -/
def Submission.notice {ρ : Type} (submission : Submission ρ) (report : Report ρ) : Notice :=
  match report.outcome with
  | .ok c => .committed c.id c.title c.steps.length
  | .error fault => .refused submission.id fault

end Casebook
