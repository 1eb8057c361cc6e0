import Casebook.Proofs.Book.Submit
import Casebook.Proofs.Script.Probe

/-! # Isolation

    A script works on the steps of its own case.  What it does decides about that
    case alone: the reports on all other submissions, and the cases and failures
    recorded for them, are the same whatever one script does
    (`Book.script_isolated`).

    Two runs that differ in one script may commit different cases and refuse
    different submissions, so their books differ from there on.  They have the
    same names taken, though (`Book.SameNames`), because a name is taken before
    the script runs and stays taken.  Names and configuration are all that later
    submissions depend on.
-/

namespace Casebook

variable {ρ σ β : Type}

/-! ## Probing a submission -/

/-- The answers that a probe leaves among the remarks of a script. -/
def Report.answers (report : Report (ρ ⊕ β)) : List β :=
  report.remarks.filterMap Sum.getRight?

/-- The submission with a probe before everything that its script does. -/
def Submission.probed (s : Submission ρ) (probe : Script (ρ ⊕ β) β) : Submission (ρ ⊕ β) where
  id := s.id
  metadata := s.metadata
  script := s.script.probed probe

namespace Book

/-! ## Books with the same names -/

/-- The books have the same names taken and the same configuration.  Their cases
    and failures may differ. -/
structure SameNames (book other : Book) : Prop where
  config : book.config = other.config
  ids : book.ids = other.ids
  titles : book.titles = other.titles

theorem SameNames.refl (book : Book) : SameNames book book := ⟨rfl, rfl, rfl⟩

section SameNames

variable {book other : Book} {s : Submission ρ} {t : Submission σ}

/-- **The names decide how far a submission gets**, and its script is not asked.
    Two submissions that differ in their scripts are refused alike, or both
    scripts run for the same heading, and the same names are taken then. -/
theorem SameNames.examine (h : SameNames book other) (hid : s.id = t.id)
    (hmetadata : s.metadata = t.metadata) :
    SameNames (book.examine s).1 (other.examine t).1 ∧
      ((∃ fault, (book.examine s).2 = .refusal fault ∧ (other.examine t).2 = .refusal fault) ∨
        (book.examine s).2 = s.complete (book.config.heading s.id s.metadata) ∧
          (other.examine t).2 = t.complete (book.config.heading s.id s.metadata)) := by
  obtain ⟨config, cases, failures, ids, titles⟩ := book
  obtain ⟨config', cases', failures', ids', titles'⟩ := other
  obtain ⟨rfl, rfl, rfl⟩ : config = config' ∧ ids = ids' ∧ titles = titles' :=
    ⟨h.config, h.ids, h.titles⟩
  unfold Book.examine
  rw [hid, hmetadata]
  dsimp only [takeId, takeTitle]
  -- The checks look at the names, so both books pass the same ones.
  split
  · exact ⟨⟨rfl, rfl, rfl⟩, Or.inl ⟨_, rfl, rfl⟩⟩
  · split
    · exact ⟨⟨rfl, rfl, rfl⟩, Or.inl ⟨_, rfl, rfl⟩⟩
    · split
      · exact ⟨⟨rfl, rfl, rfl⟩, Or.inl ⟨_, rfl, rfl⟩⟩
      · exact ⟨⟨rfl, rfl, rfl⟩, Or.inr ⟨rfl, rfl⟩⟩

/-- The report on a submission is that of its examination. -/
theorem SameNames.same_exit (h : SameNames book other) (hid : s.id = t.id)
    (hmetadata : s.metadata = t.metadata) :
    (∃ fault, (book.submit s).2 = .refusal fault ∧ (other.submit t).2 = .refusal fault) ∨
      (book.submit s).2 = s.complete (book.config.heading s.id s.metadata) ∧
        (other.submit t).2 = t.complete (book.config.heading s.id s.metadata) :=
  (h.examine hid hmetadata).2

/-- **The same names are taken next**, whatever the scripts do. -/
theorem SameNames.submit (h : SameNames book other) (hid : s.id = t.id)
    (hmetadata : s.metadata = t.metadata) : SameNames (book.submit s).1 (other.submit t).1 := by
  obtain ⟨hnext, -⟩ := h.examine hid hmetadata
  -- Recording a report takes no names.
  obtain ⟨hids, htitles, hconfig⟩ := record_names (book.examine s).1 s.id (book.examine s).2
  obtain ⟨hids', htitles', hconfig'⟩ := record_names (other.examine t).1 t.id (other.examine t).2
  exact ⟨hconfig.trans (hnext.config.trans hconfig'.symm),
    hids.trans (hnext.ids.trans hids'.symm), htitles.trans (hnext.titles.trans htitles'.symm)⟩

theorem SameNames.report_eq (h : SameNames book other) (s : Submission ρ) :
    (book.submit s).2 = (other.submit s).2 := by
  rcases h.same_exit (s := s) rfl rfl with ⟨fault, hreport, hreport'⟩ | ⟨hreport, hreport'⟩
  · rw [hreport, hreport']
  · rw [hreport, hreport']

/-- **The reports of a run** depend on the names and the configuration only. -/
theorem SameNames.reports_eq (h : SameNames book other) (history : List (Submission ρ)) :
    (book.submitAll history).2 = (other.submitAll history).2 := by
  -- By induction on the run: the names stay the same with each submission.
  induction history generalizing book other with
  | nil => rfl
  | cons s rest ih =>
    have hrest := ih (h.submit (rfl : s.id = s.id) rfl)
    rw [submitAll_cons, submitAll_cons, h.report_eq s, hrest]

end SameNames

/-! ## One submission among others -/

/-- What a run makes of the submission at a position: its report, and the place
    of the entry that it adds among those of the others. -/
structure Placed (run : Book × List (Report ρ)) (position : Nat) (id : Text) (report : Report ρ)
    (cases later : List Case) (failures laterFailures : List Failure) : Prop where
  reported : run.2[position]? = some report
  recorded : run.1.cases = cases ++ report.cases ++ later
  refused : run.1.failures = failures ++ report.failures id ++ laterFailures

/-- The reports of a run are those before a submission, that on it, and those
    behind it. -/
theorem reports_submitAll_cut (book : Book) (before : List (Submission ρ)) (s : Submission ρ)
    (after : List (Submission ρ)) :
    (book.submitAll (before ++ s :: after)).2 =
      (book.submitAll before).2 ++ ((book.submitAll before).1.submit s).2 ::
        (((book.submitAll before).1.submit s).1.submitAll after).2 := by
  rw [submitAll_append]
  rfl

/-- Apart from the report on one submission, the reports are those before it and
    those behind it. -/
theorem getElem?_reports_of_ne (book : Book) (before : List (Submission ρ)) (s : Submission ρ)
    (after : List (Submission ρ)) {j : Nat} (hj : j ≠ before.length) :
    (book.submitAll (before ++ s :: after)).2[j]? =
      if j < before.length then (book.submitAll before).2[j]?
      else (((book.submitAll before).1.submit s).1.submitAll after).2[j - before.length - 1]? := by
  rw [reports_submitAll_cut, List.getElem?_append, length_submitAll]
  split
  · rfl
  · obtain ⟨k, hk⟩ : ∃ k, j - before.length = k + 1 := ⟨j - before.length - 1, by omega⟩
    rw [hk]
    rfl

theorem placed_submitAll (book : Book) (before : List (Submission ρ)) (s : Submission ρ)
    (after : List (Submission ρ)) :
    Placed (book.submitAll (before ++ s :: after)) before.length s.id
      ((book.submitAll before).1.submit s).2 (book.submitAll before).1.cases
      ((((book.submitAll before).1.submit s).1.submitAll after).2.flatMap Report.cases)
      (book.submitAll before).1.failures
      (List.zipWith (fun s report => report.failures s.id) after
        (((book.submitAll before).1.submit s).1.submitAll after).2).flatten := by
  obtain ⟨hcases, hfailures⟩ := recorded_iff.1 (recorded_submit (book.submitAll before).1 s)
  obtain ⟨hlater, hlaterFailures⟩ :=
    entries_submitAll ((book.submitAll before).1.submit s).1 after
  rw [hcases] at hlater
  rw [hfailures] at hlaterFailures
  have hreport : (book.submitAll (before ++ s :: after)).2[before.length]? =
      some ((book.submitAll before).1.submit s).2 := by
    rw [reports_submitAll_cut, ← length_submitAll book before, List.getElem?_append_right le_rfl,
      Nat.sub_self]
    rfl
  refine ⟨hreport, ?_, ?_⟩ <;> rw [submitAll_append]
  · exact hlater
  · exact hlaterFailures

/-! ## What a script sees -/

/-- The probe is answered in one way whenever the script of the submission could
    ask, and the submission gets the same outcome with the probe. -/
structure Answered (book : Book) (s : Submission ρ) (probe : Script (ρ ⊕ β) β) (answer : β) :
    Prop where
  outcome : (book.submit (s.probed probe)).2.outcome = (book.submit s).2.outcome
  asked : (book.submit s).2.started = true → (book.submit (s.probed probe)).2.answers ≠ []
  answers : ∀ seen ∈ (book.submit (s.probed probe)).2.answers, seen = answer

theorem answered_of_quiet {book : Book} {s : Submission ρ} {probe : Script (ρ ⊕ β) β} {answer : β}
    (h : probe.Quiet (book.config.heading s.id s.metadata) answer) :
    Answered book s probe answer := by
  have hexit := (SameNames.refl book).same_exit (s := s) (t := s.probed probe) rfl rfl
  have hrun := Script.answers_run_probed h s.script {}
  rcases hexit with ⟨fault, hplain, hprobed⟩ | ⟨hplain, hprobed⟩
  · -- The script does not run, so nothing is asked.
    refine ⟨?_, ?_, ?_⟩ <;> rw [hprobed]
    · rw [hplain]
      rfl
    · rw [hplain]
      intro hstarted
      cases hstarted
    · intro seen hmem
      cases hmem
  · refine ⟨?_, ?_, ?_⟩ <;> rw [hprobed]
    · rw [hplain]
      unfold Submission.complete Submission.probed
      simp only [hrun.outcome, hrun.outline]
    · intro _
      exact Script.asked_run_probed h s.script {}
    · exact hrun.answers

/-- All that the script of a submission can see of its case is the heading, at
    every moment. -/
structure Shows (book : Book) (s : Submission ρ) (heading : Heading) : Prop where
  sees : Answered book s Script.heading heading
  seesTag : ∀ tag, Answered book s (Script.hasTag tag) (heading.hasTag tag)
  seesBrowser : ∀ fragment,
    Answered book s (Script.hasBrowser fragment) (heading.hasBrowser fragment)

theorem shows_heading (book : Book) (s : Submission ρ) :
    Shows book s (book.config.heading s.id s.metadata) where
  sees := answered_of_quiet Script.quiet_heading
  seesTag tag := answered_of_quiet (Script.quiet_hasTag tag)
  seesBrowser fragment := answered_of_quiet (Script.quiet_hasBrowser fragment)

/-! ## The main result -/

/-- **A script reaches no other submission.**  Let the script of one submission in
    a run be changed.

    * The reports on all other submissions are the same, and so are the cases and
      failures recorded for them, in the same order.
    * What is committed for the submission has the heading that its id, its
      metadata and the configuration decide, with either script, so two cases
      differ in their steps at most.
    * With either script that heading is what the script sees at every moment. -/
theorem script_isolated (config : Configuration) (before : List (Submission ρ))
    (s : Submission ρ) (script : Script ρ Unit) (after : List (Submission ρ)) :
    let changed : Submission ρ := { s with script }
    let run (t : Submission ρ) := (empty config).submitAll (before ++ t :: after)
    let book := ((empty config).submitAll before).1
    let heading := config.heading s.id s.metadata
    (∀ j, j ≠ before.length → (run changed).2[j]? = (run s).2[j]?) ∧
      ∃ report report' cases later failures laterFailures,
        Placed (run s) before.length s.id report cases later failures laterFailures ∧
        Placed (run changed) before.length s.id report' cases later failures laterFailures ∧
        (∀ c, report.outcome = .ok c ∨ report'.outcome = .ok c → c.toHeading = heading) ∧
        Shows book s heading ∧ Shows book changed heading := by
  intro changed run book heading
  have hnames : SameNames (book.submit s).1 (book.submit changed).1 :=
    (SameNames.refl book).submit rfl rfl
  have hlater := hnames.reports_eq after
  have hconfig : book.config = config := config_submitAll (empty config) before
  refine ⟨?_, (book.submit s).2, (book.submit changed).2, _, _, _, _,
    placed_submitAll (empty config) before s after, ?_, ?_, ?_, ?_⟩
  · intro j hj
    have hchanged := getElem?_reports_of_ne (empty config) before changed after hj
    rw [← hlater] at hchanged
    exact hchanged.trans (getElem?_reports_of_ne (empty config) before s after hj).symm
  · have hplaced := placed_submitAll (empty config) before changed after
    rw [← hlater] at hplaced
    exact hplaced
  · intro c hc
    rcases hc with hc | hc
    · rw [(commits_of_submit hc).heading_eq, hconfig]
    · rw [(commits_of_submit hc).heading_eq, hconfig]
  · have hshows := shows_heading book s
    rwa [hconfig] at hshows
  · have hshows := shows_heading book changed
    rwa [hconfig] at hshows

/-- A submission of one step. -/
def plainSubmission (id step : Text) : Submission Empty where
  id := id
  metadata := { title := some id }
  script := .step step

theorem script_isolated_broken :
    let run (step : Text) := (empty {}).submitAll
      [plainSubmission "ok-1".toList "Go.\nGone?".toList,
        plainSubmission "bad".toList step,
        plainSubmission "ok-2".toList "Go.\nGone?".toList]
    (run "Go.\nGone.".toList).1.failures =
        [⟨"bad".toList, .malformedQuestion "Gone.".toList⟩] ∧
      (run "Go.\nGone?".toList).1.failures = [] ∧
      (run "Go.\nGone?".toList).2[2]? = (run "Go.\nGone.".toList).2[2]? := by
  intro run
  obtain ⟨hothers, -⟩ := script_isolated {} [plainSubmission "ok-1".toList "Go.\nGone?".toList]
    (plainSubmission "bad".toList "Go.\nGone.".toList) (.step "Go.\nGone?".toList)
    [plainSubmission "ok-2".toList "Go.\nGone?".toList]
  refine ⟨by decide +kernel, by decide +kernel, ?_⟩
  exact hothers 2 (by decide)

end Book

end Casebook
