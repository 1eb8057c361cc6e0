import Casebook.Proofs.Book.Submit
import Casebook.Proofs.Text.Ending

/-! # Acceptance

    A submission whose names are free and whose script runs to its end is decided
    by its questions, and by them as they are given: each of them must have a
    question mark as its last character that is no blank.  Files, quotes and
    blanks are changed before the decision, but they do not change it
    (`Step.asks_normal_iff`).

    The first question that does not ask is the one that is reported, in its
    final form (`Book.submission_accepted_iff`).
-/

namespace Casebook

variable {ρ : Type}

/-! ## Questions as they are given -/

/-- The last character of the question that is no blank is a question mark. -/
def Step.AsksAsGiven (step : Step) : Prop :=
  Text.lastSolid? step.question = some '?'

instance (step : Step) : Decidable step.AsksAsGiven :=
  inferInstanceAs (Decidable (Text.lastSolid? step.question = some '?'))

/-- **The normal form of a step asks** exactly when the step does as it is
    given. -/
theorem Step.asks_normal_iff {step : Step} : step.normal.asks = true ↔ step.AsksAsGiven := by
  unfold Step.asks Step.normal Step.AsksAsGiven
  rw [Text.getLast?_question, beq_iff_eq]

namespace Outline

/-- The first step that does not ask is found in the steps as they are given. -/
theorem find?_normal (outline : Outline) :
    (outline.steps.map Step.normal).find? (fun step => !step.asks) =
      (outline.steps.find? fun step => ¬ step.AsksAsGiven).map Step.normal := by
  have hsame : ((fun step => !step.asks) ∘ Step.normal) =
      fun step : Step => decide (¬ step.AsksAsGiven) := by
    funext step
    rw [Function.comp_apply, Bool.eq_iff_iff, Bool.not_eq_true', ← Bool.not_eq_true,
      Step.asks_normal_iff, decide_eq_true_iff]
  rw [List.find?_map, hsame]

/-- An outline is committed if all of its steps ask, and otherwise the first one
    that does not is reported. -/
theorem commit_cases (outline : Outline) :
    (∀ step ∈ outline.steps, step.AsksAsGiven) ∧
        outline.commit = .ok (outline.steps.map Step.normal) ∨
      ∃ before step after, outline.steps = before ++ step :: after ∧
        (∀ earlier ∈ before, earlier.AsksAsGiven) ∧ ¬ step.AsksAsGiven ∧
        outline.commit = .error (.malformedQuestion step.normal.question) := by
  unfold commit
  simp only [find?_normal]
  rcases hfind : outline.steps.find? fun step => ¬ step.AsksAsGiven with _ | step
  · refine Or.inl ⟨?_, by rw [hfind]; rfl⟩
    intro step hmem
    simpa using List.find?_eq_none.1 hfind step hmem
  · obtain ⟨hstep, before, after, hsteps, hbefore⟩ := List.find?_eq_some_iff_append.1 hfind
    refine Or.inr ⟨before, step, after, hsteps, ?_, by simpa using hstep, by rw [hfind]; rfl⟩
    intro earlier hmem
    simpa using hbefore earlier hmem

end Outline

/-! ## Submissions -/

/-- A script that runs to its end leaves the decision to its steps. -/
theorem Submission.outcome_complete {s : Submission ρ} {heading : Heading}
    (hscript : (s.script.run heading {}).outcome = .ok ()) :
    (s.complete heading).outcome =
      (s.script.run heading {}).outline.commit.map fun steps => { heading with steps } := by
  unfold Submission.complete
  simp only [hscript]
  cases (s.script.run heading {}).outline.commit <;> rfl

namespace Book

/-- The heading that a book gives a submission. -/
def headingOf (book : Book) (s : Submission ρ) : Heading :=
  book.config.heading s.id s.metadata

/-- The steps that the script of a submission declares, as they are given. -/
def draft (book : Book) (s : Submission ρ) : List Step :=
  (s.script.run (book.headingOf s) {}).outline.steps

/-- What becomes of an admitted submission by its draft: the case with all of the
    steps in order, or the first question that does not ask. -/
inductive Verdict (book : Book) (s : Submission ρ) : Except Fault Case → Prop
  | accepted (h : ∀ step ∈ book.draft s, step.AsksAsGiven) :
      Verdict book s (.ok { book.headingOf s with steps := (book.draft s).map Step.normal })
  | refused {before after : List Step} {step : Step}
      (hdraft : book.draft s = before ++ step :: after)
      (hbefore : ∀ earlier ∈ before, earlier.AsksAsGiven) (hstep : ¬ step.AsksAsGiven) :
      Verdict book s
        (.error (.malformedQuestion (Text.spaceQuotedEnd (Text.normalize step.question))))

theorem Admits.verdict {book : Book} {s : Submission ρ} (h : book.Admits s)
    (hscript : (s.script.run (book.headingOf s) {}).outcome = .ok ()) :
    book.Verdict s (book.submit s).2.outcome := by
  rw [h.report_eq, ← headingOf, Submission.outcome_complete hscript]
  rcases Outline.commit_cases (s.script.run (book.headingOf s) {}).outline with
    ⟨hall, hcommit⟩ | ⟨before, step, after, hsteps, hbefore, hstep, hcommit⟩
  · rw [hcommit]
    exact .accepted hall
  · rw [hcommit]
    exact .refused hsteps hbefore hstep

/-- A verdict lets a case pass exactly when every question asks. -/
theorem Verdict.ok_iff {book : Book} {s : Submission ρ} {outcome : Except Fault Case}
    (h : book.Verdict s outcome) :
    (∃ c, outcome = .ok c) ↔ ∀ step ∈ book.draft s, step.AsksAsGiven := by
  cases h with
  | accepted hall => exact ⟨fun _ => hall, fun _ => ⟨_, rfl⟩⟩
  | refused hdraft hbefore hstep =>
    constructor
    · rintro ⟨c, hc⟩
      cases hc
    · intro hall
      exact absurd (hall _ (by simp [hdraft])) hstep

/-- **A submission is accepted by its questions.**  If its names are free and its
    script runs to its end, it is committed exactly when every question that the
    script declared has a question mark as its last character that is no blank.
    Then the case has all of its steps in order, and otherwise the first question
    that does not ask is reported in its final form, and the book gets no case. -/
theorem submission_accepted_iff {book : Book} {s : Submission ρ} (h : book.Admits s)
    (hscript : (s.script.run (book.headingOf s) {}).outcome = .ok ()) :
    ((∃ c, (book.submit s).2.outcome = .ok c) ↔ ∀ step ∈ book.draft s, step.AsksAsGiven) ∧
      book.Verdict s (book.submit s).2.outcome ∧
      Recorded book s.id (book.submit s).2 (book.submit s).1 :=
  ⟨(h.verdict hscript).ok_iff, h.verdict hscript, recorded_submit book s⟩

/-- A submission that declares four steps.  The first asks behind a quote and
    blanks, the second ends with a reference, and the last does not ask either. -/
def strayingSubmission : Submission Empty where
  id := "stray".toList
  metadata := { title := some "Straying".toList }
  script := do
    Script.step "Open \x7b\x7bimg/a.png\x7d\x7d.\nq: Is it \"on\"?\u2003\n".toList
    Script.instruction "Wait.".toList
    Script.question " Is it\t\"off\"?\x7b\x7bimg/b.png\x7d\x7d ".toList
    Script.step "Is it \"on\"?".toList
    Script.step "No question.".toList

/-- The question that is reported for it. -/
def strayingQuestion : Text :=
  "Is it \"off\"?\x7b\x7bfile.screenshot(../img/b.png)\x7d\x7d".toList

theorem submission_accepted_iff_straying :
    (empty {}).Admits strayingSubmission ∧
      (strayingSubmission.script.run ((empty {}).headingOf strayingSubmission) {}).outcome =
        .ok () ∧
      ((empty {}).submit strayingSubmission).1.failures =
        [⟨"stray".toList, .malformedQuestion strayingQuestion⟩] ∧
      ((∃ c, ((empty {}).submit strayingSubmission).2.outcome = .ok c) ↔
        ∀ step ∈ (empty {}).draft strayingSubmission, step.AsksAsGiven) ∧
      (empty {}).Verdict strayingSubmission ((empty {}).submit strayingSubmission).2.outcome ∧
      Recorded (empty {}) strayingSubmission.id ((empty {}).submit strayingSubmission).2
        ((empty {}).submit strayingSubmission).1 := by
  have hadmits : (empty {}).Admits strayingSubmission :=
    ⟨by decide +kernel, List.not_mem_nil, List.not_mem_nil⟩
  have hscript : (strayingSubmission.script.run ((empty {}).headingOf strayingSubmission)
      {}).outcome = .ok () := by
    decide +kernel
  have hfailures : ((empty {}).submit strayingSubmission).1.failures =
      [⟨"stray".toList, .malformedQuestion strayingQuestion⟩] := by
    decide +kernel
  exact ⟨hadmits, hscript, hfailures, submission_accepted_iff hadmits hscript⟩

end Book

end Casebook
