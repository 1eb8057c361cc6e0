import Casebook.Book.Basic
import Casebook.Proofs.Text.Spacing

/-! # Submissions

    What one submission can do to a book, and what a list of submissions makes
    of that.

    * There are four exits (`Book.Examined`), which take different names and give
      different reports.
    * A report adds one case or one failure behind the others
      (`Book.recorded_submit`).
    * What every submission keeps holds after all of them
      (`Book.submitAll_invariant`).
-/

namespace Casebook

variable {ρ : Type}

/-! ## Completing a case -/

/-- The report on a submission that is refused before its script runs. -/
def Report.refusal (fault : Fault) : Report ρ :=
  { outcome := .error fault }

@[simp] theorem Report.started_refusal (fault : Fault) :
    (refusal fault : Report ρ).started = false := rfl

@[simp] theorem Submission.started_complete (s : Submission ρ) (heading : Heading) :
    (s.complete heading).started = true := rfl

@[simp] theorem Report.refusal_inj {fault other : Fault} :
    (refusal fault : Report ρ) = refusal other ↔ fault = other := by
  simp [refusal]

/-- A report on a script is no refusal before the script, whatever fault the
    script ends with. -/
@[simp] theorem Report.refusal_ne_complete (fault : Fault) (s : Submission ρ) (heading : Heading) :
    refusal fault ≠ s.complete heading := by
  intro h
  simpa using congrArg Report.started h

/-- Steps are committed in their normal form, and only if each of them asks. -/
theorem Outline.commit_eq_ok_iff {outline : Outline} {steps : List Step} :
    outline.commit = .ok steps ↔
      steps = outline.steps.map Step.normal ∧ ∀ step ∈ steps, step.asks = true := by
  unfold Outline.commit
  simp only
  split
  next step hfind =>
    -- A step that does not ask was found.
    have hmem := List.mem_of_find?_eq_some hfind
    have hasks : step.asks = false := by simpa using List.find?_some hfind
    constructor
    · intro h
      cases h
    · intro hright
      obtain ⟨rfl, hall⟩ := hright
      rw [hall step hmem] at hasks
      cases hasks
  next hfind =>
    rw [List.find?_eq_none] at hfind
    rw [Except.ok.injEq]
    constructor
    · intro heq
      subst heq
      refine ⟨rfl, ?_⟩
      intro step hmem
      simpa using hfind step hmem
    · intro hright
      obtain ⟨rfl, -⟩ := hright
      rfl

/-- **A case is committed** when its script ends well and every step asks. -/
theorem Submission.complete_eq_ok_iff {s : Submission ρ} {heading : Heading} {c : Case} :
    (s.complete heading).outcome = .ok c ↔
      (s.script.run heading {}).outcome = .ok () ∧
        c = { heading with steps := (s.script.run heading {}).outline.steps.map Step.normal } ∧
        ∀ step ∈ c.steps, step.asks = true := by
  unfold Submission.complete
  generalize s.script.run heading {} = run
  obtain ⟨outcome, outline, remarks⟩ := run
  cases outcome with
  | error fault =>
    constructor
    · intro h
      cases h
    · intro hright
      obtain ⟨h, -⟩ := hright
      cases h
  | ok value =>
    show (outline.commit.bind fun steps => .ok { heading with steps }) = .ok c ↔ _
    cases hcommit : outline.commit with
    | error fault =>
      -- If every step asked, the outline would have been committed.
      constructor
      · intro h
        cases h
      · intro hright
        obtain ⟨-, rfl, hasks⟩ := hright
        rw [Outline.commit_eq_ok_iff.2 ⟨rfl, hasks⟩] at hcommit
        cases hcommit
    | ok steps =>
      obtain ⟨rfl, hasks⟩ := Outline.commit_eq_ok_iff.1 hcommit
      constructor
      · intro h
        obtain rfl := Except.ok.inj h
        exact ⟨rfl, rfl, hasks⟩
      · intro hright
        obtain ⟨-, rfl, -⟩ := hright
        rfl

/-! ## What a report adds -/

/-- The case that a report adds to a book, if there is one. -/
def Report.cases (report : Report ρ) : List Case :=
  match report.outcome with
  | .ok c => [c]
  | .error _ => []

/-- The failure that a report on an id adds to a book, if there is one. -/
def Report.failures (report : Report ρ) (id : Text) : List Failure :=
  match report.outcome with
  | .ok _ => []
  | .error fault => [⟨id, fault⟩]

namespace Book

/-! ## One submission -/

/-- The exits of an examination, each with the book and the report it leaves. -/
inductive Examined (book : Book) (s : Submission ρ) : Book → Report ρ → Prop
  | blankId (hblank : Text.Blank s.id) : Examined book s book (.refusal .missingIdentifier)
  | takenId (hid : ¬ Text.Blank s.id) (htaken : s.id ∈ book.ids) :
      Examined book s book (.refusal (.duplicateIdentifier s.id))
  | takenTitle (hid : ¬ Text.Blank s.id) (hfree : s.id ∉ book.ids)
      (htaken : book.config.titleOf s.metadata ∈ book.titles) :
      Examined book s (book.takeId s.id)
        (.refusal (.duplicateTitle (book.config.titleOf s.metadata)))
  | completed (hid : ¬ Text.Blank s.id) (hfree : s.id ∉ book.ids)
      (htitle : book.config.titleOf s.metadata ∉ book.titles) :
      Examined book s ((book.takeId s.id).takeTitle (book.config.titleOf s.metadata))
        (s.complete (book.config.heading s.id s.metadata))

theorem examined_examine (book : Book) (s : Submission ρ) :
    Examined book s (book.examine s).1 (book.examine s).2 := by
  unfold examine
  simp only [List.isEmpty_iff, Text.trim_eq_nil_iff, List.contains_iff_mem]
  by_cases hblank : Text.Blank s.id
  · rw [if_pos hblank]
    exact .blankId hblank
  · rw [if_neg hblank]
    by_cases hid : s.id ∈ book.ids
    · rw [if_pos hid]
      exact .takenId hblank hid
    · rw [if_neg hid]
      by_cases htitle : (book.config.heading s.id s.metadata).title ∈ (book.takeId s.id).titles
      · rw [if_pos htitle]
        exact .takenTitle hblank hid htitle
      · rw [if_neg htitle]
        exact .completed hblank hid htitle

/-- The exits of a submission: those of its examination, with the report
    recorded. -/
theorem submit_cases (book : Book) (s : Submission ρ) :
    ∃ next report, Examined book s next report ∧
      book.submit s = (next.record s.id report, report) :=
  ⟨(book.examine s).1, (book.examine s).2, examined_examine book s, rfl⟩

/-! ## What is recorded -/

/-- The report is recorded behind the earlier cases or failures: one entry in
    one of the two lists. -/
def Recorded (before : Book) (id : Text) (report : Report ρ) (after : Book) : Prop :=
  match report.outcome with
  | .ok c => after.cases = before.cases ++ [c] ∧ after.failures = before.failures
  | .error fault =>
    after.cases = before.cases ∧ after.failures = before.failures ++ [⟨id, fault⟩]

theorem recorded_iff {before after : Book} {id : Text} {report : Report ρ} :
    Recorded before id report after ↔
      after.cases = before.cases ++ report.cases ∧
        after.failures = before.failures ++ report.failures id := by
  unfold Recorded Report.cases Report.failures
  cases report.outcome <;> simp

/-- Later books have all entries of the earlier one, in the same places. -/
structure Extends (before after : Book) : Prop where
  cases : before.cases <+: after.cases
  failures : before.failures <+: after.failures

theorem Extends.refl (book : Book) : Extends book book :=
  ⟨List.prefix_rfl, List.prefix_rfl⟩

theorem Extends.trans {first second third : Book} (h : Extends first second)
    (h' : Extends second third) : Extends first third :=
  ⟨h.cases.trans h'.cases, h.failures.trans h'.failures⟩

theorem Recorded.extends {before after : Book} {id : Text} {report : Report ρ}
    (h : Recorded before id report after) : Extends before after := by
  unfold Recorded at h
  split at h
  next c _ =>
    obtain ⟨hcases, hfailures⟩ := h
    exact ⟨hcases ▸ List.prefix_append _ _, hfailures ▸ List.prefix_rfl⟩
  next fault _ =>
    obtain ⟨hcases, hfailures⟩ := h
    exact ⟨hcases ▸ List.prefix_rfl, hfailures ▸ List.prefix_append _ _⟩

/-- Examining takes names and records nothing. -/
theorem Examined.same_entries {book next : Book} {s : Submission ρ} {report : Report ρ}
    (h : Examined book s next report) :
    next.cases = book.cases ∧ next.failures = book.failures ∧ next.config = book.config := by
  cases h <;> exact ⟨rfl, rfl, rfl⟩

/-- Recording leaves the names and the configuration alone. -/
theorem record_names (book : Book) (id : Text) (report : Report ρ) :
    (book.record id report).ids = book.ids ∧ (book.record id report).titles = book.titles ∧
      (book.record id report).config = book.config := by
  unfold record
  split <;> exact ⟨rfl, rfl, rfl⟩

/-- **Every submission is recorded once**, as a case or as a failure. -/
theorem recorded_submit (book : Book) (s : Submission ρ) :
    Recorded book s.id (book.submit s).2 (book.submit s).1 := by
  obtain ⟨next, report, hexit, hsubmit⟩ := submit_cases book s
  obtain ⟨hcases, hfailures, -⟩ := hexit.same_entries
  rw [hsubmit]
  show Recorded book s.id report (next.record s.id report)
  unfold Recorded record
  cases report.outcome with
  | ok c => exact ⟨by rw [← hcases]; rfl, hfailures⟩
  | error fault => exact ⟨hcases, by rw [← hfailures]; rfl⟩

theorem config_submit (book : Book) (s : Submission ρ) :
    (book.submit s).1.config = book.config := by
  obtain ⟨next, report, hexit, hsubmit⟩ := submit_cases book s
  rw [hsubmit, (record_names next _ _).2.2, hexit.same_entries.2.2]

/-! ## What is committed -/

/-- The id of the submission is neither blank nor taken, and its title is free. -/
structure Admits (book : Book) (s : Submission ρ) : Prop where
  hasId : ¬ Text.Blank s.id
  freeId : s.id ∉ book.ids
  freeTitle : book.config.titleOf s.metadata ∉ book.titles

/-- What is reported on an admitted submission is for its script to say. -/
theorem Admits.report_eq {book : Book} {s : Submission ρ} (h : book.Admits s) :
    (book.submit s).2 = s.complete (book.config.heading s.id s.metadata) := by
  obtain ⟨next, report, hexit, hsubmit⟩ := submit_cases book s
  rw [hsubmit]
  cases hexit with
  | blankId hblank => exact absurd hblank h.hasId
  | takenId hid htaken => exact absurd htaken h.freeId
  | takenTitle hid hfree htaken => exact absurd htaken h.freeTitle
  | completed hid hfree htitle => rfl

/-- The submission finds its id and its title free, and its script completes the
    case. -/
structure Commits (book : Book) (s : Submission ρ) (c : Case) : Prop where
  hasId : ¬ Text.Blank s.id
  freeId : s.id ∉ book.ids
  freeTitle : book.config.titleOf s.metadata ∉ book.titles
  completed : (s.complete (book.config.heading s.id s.metadata)).outcome = .ok c

theorem Commits.heading_eq {book : Book} {s : Submission ρ} {c : Case} (h : Commits book s c) :
    c.toHeading = book.config.heading s.id s.metadata := by
  obtain ⟨-, rfl, -⟩ := Submission.complete_eq_ok_iff.1 h.completed
  rfl

theorem commits_of_submit {book : Book} {s : Submission ρ} {c : Case}
    (h : (book.submit s).2.outcome = .ok c) : Commits book s c := by
  obtain ⟨next, report, hexit, hsubmit⟩ := submit_cases book s
  rw [hsubmit] at h
  cases hexit with
  | blankId => cases h
  | takenId => cases h
  | takenTitle => cases h
  | completed hid hfree htitle => exact ⟨hid, hfree, htitle, h⟩

/-- **A submission is committed** exactly if its names are free and its script
    completes the case. -/
theorem commits_iff {book : Book} {s : Submission ρ} {c : Case} :
    Commits book s c ↔ (book.submit s).2.outcome = .ok c := by
  refine ⟨?_, commits_of_submit⟩
  intro h
  have hadmits : book.Admits s := ⟨h.hasId, h.freeId, h.freeTitle⟩
  rw [hadmits.report_eq]
  exact h.completed

/-- The committed cases stay, or one is put behind them. -/
theorem cases_submit (book : Book) (s : Submission ρ) :
    (book.submit s).1.cases = book.cases ∨
      ∃ c, (book.submit s).1.cases = book.cases ++ [c] ∧ Commits book s c := by
  have hrecorded := recorded_submit book s
  unfold Recorded at hrecorded
  split at hrecorded
  next c hok => exact Or.inr ⟨c, hrecorded.1, commits_of_submit hok⟩
  · exact Or.inl hrecorded.1

/-! ## What is taken -/

/-- A submission takes its id unless that is blank. -/
theorem mem_ids_submit {book : Book} {s : Submission ρ} {id : Text} :
    id ∈ (book.submit s).1.ids ↔ id ∈ book.ids ∨ ¬ Text.Blank s.id ∧ s.id = id := by
  obtain ⟨next, report, hexit, hsubmit⟩ := submit_cases book s
  rw [hsubmit, (record_names next _ _).1]
  cases hexit with
  | blankId hblank => simp [hblank]
  | takenId hid htaken =>
    constructor
    · exact Or.inl
    · intro hcase
      rcases hcase with h | ⟨-, rfl⟩
      · exact h
      · exact htaken
  | takenTitle hid hfree htaken => simp [takeId, hid, eq_comm]
  | completed hid hfree htitle => simp [takeTitle, takeId, hid, eq_comm]

/-- A submission takes its title once its id is found to be free. -/
theorem mem_titles_submit {book : Book} {s : Submission ρ} {title : Text} :
    title ∈ (book.submit s).1.titles ↔
      title ∈ book.titles ∨
        (¬ Text.Blank s.id ∧ s.id ∉ book.ids) ∧ book.config.titleOf s.metadata = title := by
  obtain ⟨next, report, hexit, hsubmit⟩ := submit_cases book s
  rw [hsubmit, (record_names next _ _).2.1]
  cases hexit with
  | blankId hblank => simp [hblank]
  | takenId hid htaken => simp [htaken]
  | takenTitle hid hfree htaken =>
    -- The title is not put into the list a second time, as it is in it.
    constructor
    · exact Or.inl
    · intro hcase
      rcases hcase with h | ⟨-, rfl⟩
      · exact h
      · exact htaken
  | completed hid hfree htitle => simp [takeTitle, takeId, hid, hfree, eq_comm]

/-! ## Lists of submissions -/

theorem submitAll_cons (book : Book) (s : Submission ρ) (rest : List (Submission ρ)) :
    book.submitAll (s :: rest) =
      (((book.submit s).1.submitAll rest).1,
        (book.submit s).2 :: ((book.submit s).1.submitAll rest).2) := rfl

/-- Submitting a list is submitting its first part and then the second. -/
theorem submitAll_append (book : Book) (first second : List (Submission ρ)) :
    book.submitAll (first ++ second) =
      (((book.submitAll first).1.submitAll second).1,
        (book.submitAll first).2 ++ ((book.submitAll first).1.submitAll second).2) := by
  induction first generalizing book with
  | nil => rfl
  | cons s rest ih =>
    rw [List.cons_append, submitAll_cons, submitAll_cons, ih]
    rfl

theorem length_submitAll (book : Book) (history : List (Submission ρ)) :
    (book.submitAll history).2.length = history.length := by
  induction history generalizing book with
  | nil => rfl
  | cons s rest ih =>
    rw [submitAll_cons, List.length_cons, List.length_cons, ih]

/-- **What every submission keeps** holds after any list of submissions. -/
theorem submitAll_invariant {P : Book → Prop}
    (hP : ∀ book (s : Submission ρ), P book → P (book.submit s).1) {book : Book} (h : P book)
    (history : List (Submission ρ)) : P (book.submitAll history).1 := by
  induction history generalizing book with
  | nil => exact h
  | cons s rest ih => exact ih (hP book s h)

theorem config_submitAll (book : Book) (history : List (Submission ρ)) :
    (book.submitAll history).1.config = book.config := by
  have hstep : ∀ (next : Book) (s : Submission ρ), next.config = book.config →
      (next.submit s).1.config = book.config := by
    intro next s h
    rw [config_submit, h]
  exact submitAll_invariant hstep rfl history

/-- **What every book with the configuration reports** holds of each report of a
    run, with its submission. -/
theorem forall₂_submitAll {config : Configuration} {P : Submission ρ → Report ρ → Prop}
    (hP : ∀ (book : Book) s, book.config = config → P s (book.submit s).2) {book : Book}
    (h : book.config = config) (history : List (Submission ρ)) :
    List.Forall₂ P history (book.submitAll history).2 := by
  induction history generalizing book with
  | nil => exact List.Forall₂.nil
  | cons s rest ih =>
    rw [submitAll_cons]
    exact List.Forall₂.cons (hP book s h) (ih ((config_submit book s).trans h))

/-- The entries of a book after a run are those of the reports, in order. -/
theorem entries_submitAll (book : Book) (history : List (Submission ρ)) :
    (book.submitAll history).1.cases =
        book.cases ++ (book.submitAll history).2.flatMap Report.cases ∧
      (book.submitAll history).1.failures = book.failures ++
        (List.zipWith (fun s report => report.failures s.id) history
          (book.submitAll history).2).flatten := by
  induction history generalizing book with
  | nil => exact ⟨(List.append_nil _).symm, (List.append_nil _).symm⟩
  | cons s rest ih =>
    obtain ⟨hcases, hfailures⟩ := recorded_iff.1 (recorded_submit book s)
    obtain ⟨hlater, hlaterFailures⟩ := ih (book.submit s).1
    rw [hcases, List.append_assoc] at hlater
    rw [hfailures, List.append_assoc] at hlaterFailures
    exact ⟨hlater, hlaterFailures⟩

/-- No entry is changed or removed later. -/
theorem extends_submitAll (book : Book) (history : List (Submission ρ)) :
    Extends book (book.submitAll history).1 := by
  have hstep : ∀ next (s : Submission ρ), Extends book next → Extends book (next.submit s).1 := by
    intro next s h
    exact h.trans (recorded_submit next s).extends
  exact submitAll_invariant hstep (Extends.refl book) history

end Book

end Casebook
