import Casebook.Proofs.Case.Committed
import Casebook.Proofs.Text.Tidy

/-! # Well-formed cases

    What a reader of a committed case can rely on, said of its texts alone
    (`Case.WellFormed`): it has an id, a title, a start path and browsers, its
    instructions and questions are tidy, and every question asks without a
    marker in front of it and without a quote at its mark.

    A case is written in many ways, and the book takes it in one form only: all
    cases of a book are well formed, whatever was submitted to it
    (`Book.wellFormed_cases`).
-/

namespace Casebook

/-- Both texts are tidy, and the question is a question. -/
structure Step.WellFormed (step : Step) : Prop where
  instruction : Text.Tidy step.instruction
  question : Text.Tidy step.question
  questionNe : step.question ≠ []
  asks : step.question.getLast? = some '?'
  apart : ¬ ['"', '?'] <:+ step.question
  unmarked : Marker.starts step.question = false
  stripped : Marker.strip step.question = step.question

/-- The case has an id, a title, a path and browsers, and its steps are well
    formed. -/
structure Case.WellFormed (c : Case) : Prop where
  id : ¬ Text.Blank c.id
  title : c.title ≠ []
  path : c.path ≠ []
  browsers : c.browsers ≠ []
  steps : ∀ step ∈ c.steps, step.WellFormed

/-- A step in its committed form is well formed. -/
theorem Step.Final.wellFormed {step : Step} (h : step.Final) : step.WellFormed where
  instruction := by
    obtain ⟨raw, rfl⟩ := h.normal
    exact Text.tidy_normalize raw.instruction
  question := by
    obtain ⟨raw, rfl⟩ := h.normal
    exact (Text.tidy_normalize raw.question).spaceQuotedEnd
  questionNe := h.question_ne_nil
  asks := by simpa [Step.asks] using h.asks
  apart := by
    obtain ⟨raw, rfl⟩ := h.normal
    exact Text.not_suffix_spaceQuotedEnd (Text.normalize raw.question)
  unmarked := h.unmarked
  stripped := Marker.strip_of_not_starts h.unmarked

theorem Case.Committed.wellFormed {c : Case} (h : c.Committed) : c.WellFormed where
  id := h.hasId
  title := h.heading.title
  path := h.heading.path
  browsers := h.heading.browsers
  steps step hmem := (h.steps step hmem).wellFormed

namespace Book

variable {ρ : Type}

/-- **Every case of a book is well formed**, for every configuration and after
    any submissions with any scripts. -/
theorem wellFormed_cases (config : Configuration) (history : List (Submission ρ)) :
    ∀ c ∈ ((empty config).submitAll history).1.cases, c.WellFormed := by
  intro c hmem
  exact (committed_of_mem_submitAll hmem).wellFormed

/-- A submission that declares its steps in four ways: with a marked question,
    with markers in the question only, in two parts, and in two parts with a
    question that is declared a second time because the first one was empty. -/
def variedSubmission : Submission Empty where
  id := " varied ".toList
  metadata := { title := some [], browsers := some [] }
  script := do
    Script.step "\n Open\t\x7b\x7bimg/a .png\x7d\x7d\n q:\u2003Q. is it\n q. \u2028 \"on\"?".toList
    Script.step "Q: q:  Is\u00a0it?".toList
    Script.instruction " \n".toList
    Script.question "q.Q: still \"there\"?".toList
    Script.instruction "Wait. ".toList
    Script.question "Q: ".toList
    Script.question "Q: Q: done?".toList

/-- What is committed for it. -/
def variedCase : Case where
  id := " varied ".toList
  title := "unnamed test".toList
  path := ['/']
  browsers := ["chrome_1440_900".toList]
  steps := [
    { instruction := "Open \x7b\x7bfile.screenshot(../img/a .png)\x7d\x7d".toList
      question := "is it \"on\" ?".toList },
    { question := "Is it?".toList },
    { question := "still \"there\" ?".toList },
    { instruction := "Wait.".toList
      question := "done?".toList }]

theorem wellFormed_cases_varied :
    variedCase ∈ ((empty {}).submitAll [variedSubmission]).1.cases ∧ variedCase.WellFormed := by
  have hcase : variedCase ∈ ((empty {}).submitAll [variedSubmission]).1.cases := by
    decide +kernel
  exact ⟨hcase, wellFormed_cases {} [variedSubmission] variedCase hcase⟩

end Book

end Casebook
