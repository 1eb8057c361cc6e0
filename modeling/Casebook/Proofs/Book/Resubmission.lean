import Casebook.Proofs.Case.Committed

/-! # Resubmission

    A committed case can be read as a submission: its heading as what its author
    declares, and its steps as declared in two parts each.  Submitted to a book
    of its own, without any configuration, it is committed as the same case
    (`Book.resubmission_committed`).
-/

namespace Casebook

/-- What declares the heading as it is. -/
def Heading.metadata (heading : Heading) : Metadata where
  title := some heading.title
  tags := heading.tags
  browsers := some heading.browsers
  path := some heading.path
  siteId := heading.siteId
  disabled := heading.disabled

/-- The submission that declares the case as it is. -/
def Case.resubmission {ρ : Type} (c : Case) : Submission ρ where
  id := c.id
  metadata := c.toHeading.metadata
  script := .ofSteps c.steps

/-- A complete heading is declared as it is: nothing is added to it. -/
theorem Configuration.heading_metadata {heading : Heading} (h : heading.Complete) :
    Configuration.heading {} heading.id heading.metadata = heading := by
  obtain ⟨name, names, hnames⟩ := List.exists_cons_of_ne_nil h.browsers
  have htitle : Configuration.titleOf {} heading.metadata = heading.title := by
    -- Tags that show in the title are in it already; no tag is configured to.
    have hsuffix : Configuration.suffixTags {} heading.tags = [] := by simp [suffixTags]
    show (if (Configuration.suffixTags {} heading.tags).isEmpty then
      declaredOr defaultTitle (some heading.title) else _) = heading.title
    rw [hsuffix, List.isEmpty_nil, if_pos rfl, declaredOr_some h.title]
  have hsite : heading.siteId.or (Configuration.siteFor? {} heading.tags) = heading.siteId := by
    cases heading.siteId <;> rfl
  have hbrowsers : (Configuration.browserNames {} heading.metadata).map Platform.resolve =
      heading.browsers := by
    have hdeclared : Configuration.browserNames {} heading.metadata = heading.browsers := by
      unfold browserNames Heading.metadata
      rw [hnames]
    rw [hdeclared]
    exact (List.map_congr_left h.resolved).trans (List.map_id' _)
  have hpath : declaredOr defaultPath (some heading.path) = heading.path := declaredOr_some h.path
  unfold Configuration.heading
  rw [htitle, hbrowsers]
  show Heading.mk heading.id heading.title
    (heading.siteId.or (Configuration.siteFor? {} heading.tags))
    (declaredOr defaultPath (some heading.path)) heading.tags heading.browsers
    heading.disabled = heading
  rw [hsite, hpath]

/-- The script of a resubmission declares the steps again, and they are
    committed as they are. -/
theorem Submission.complete_resubmission {ρ : Type} {c : Case} (h : c.Committed) :
    ((c.resubmission : Submission ρ).complete c.toHeading).outcome = .ok c := by
  have hsteps : ∀ step ∈ c.steps, Marker.starts step.question = false ∧ step.question ≠ [] := by
    intro step hmem
    exact ⟨(h.steps step hmem).unmarked, (h.steps step hmem).question_ne_nil⟩
  have hrun : (c.resubmission : Submission ρ).script.run c.toHeading {} =
      { outcome := .ok (), outline := ⟨c.steps.map Step.declared⟩ } :=
    Script.run_ofSteps hsteps Outline.settled_empty
  have hnormal : (c.steps.map Step.declared).map Step.normal = c.steps := by
    have hstep : ∀ step ∈ c.steps, (Step.normal ∘ Step.declared) step = step := by
      intro step hmem
      exact (h.steps step hmem).normal_declared
    rw [List.map_map]
    exact (List.map_congr_left hstep).trans (List.map_id' _)
  rw [complete_eq_ok_iff, hrun]
  refine ⟨rfl, ?_, ?_⟩
  · show c = { c.toHeading with steps := (c.steps.map Step.declared).map Step.normal }
    rw [hnormal]
  · intro step hmem
    exact (h.steps step hmem).asks

namespace Book

variable {ρ σ : Type}

/-- **A committed case is committed again as it is.**  Whatever configuration
    and submissions a case comes from, its resubmission to an empty book without
    configuration gives the same case, and with it the same text. -/
theorem resubmission_committed {config : Configuration} {history : List (Submission ρ)} {c : Case}
    (h : c ∈ ((empty config).submitAll history).1.cases) :
    ((empty {}).submit (c.resubmission : Submission σ)).2.outcome = .ok c ∧
      ((empty {}).submit (c.resubmission : Submission σ)).1.cases = [c] := by
  have hc := committed_of_mem_submitAll h
  have hheading : (empty {}).config.heading c.id c.toHeading.metadata = c.toHeading :=
    Configuration.heading_metadata hc.heading
  obtain ⟨next, report, hexit, hsubmit⟩ := submit_cases (empty {}) (c.resubmission : Submission σ)
  -- The id is not blank and no name is taken, so only the last exit is left.
  have hok : report.outcome = .ok c := by
    cases hexit with
    | blankId hblank => exact absurd hblank hc.hasId
    | takenId _ htaken => cases htaken
    | takenTitle _ _ htaken => cases htaken
    | completed =>
      show ((c.resubmission : Submission σ).complete
        ((empty {}).config.heading c.id c.toHeading.metadata)).outcome = .ok c
      rw [hheading]
      exact Submission.complete_resubmission hc
  have hrecorded := recorded_submit (empty {}) (c.resubmission : Submission σ)
  rw [hsubmit] at hrecorded ⊢
  unfold Recorded at hrecorded
  rw [hok] at hrecorded
  exact ⟨hok, hrecorded.1⟩

/-- A submission with a configured tag, a file and a quoted question. -/
def loginSubmission : Submission Empty where
  id := "login".toList
  metadata := { tags := ["smoke".toList], browsers := some ["IE10".toList] }
  script := .step "open \x7b\x7bimg/start.png\x7d\x7d\n q: Q. is it \"on\"?".toList

/-- What is committed for it. -/
def loginCase : Case where
  id := "login".toList
  title := "unnamed test (smoke)".toList
  path := ['/']
  tags := ["smoke".toList]
  browsers := ["ie10_1440_900".toList]
  steps := [
    { instruction := "open \x7b\x7bfile.screenshot(../img/start.png)\x7d\x7d".toList
      question := "is it \"on\" ?".toList }]

theorem resubmission_committed_login :
    loginCase ∈ ((empty { tagsAsSuffix := ["smoke".toList] }).submitAll [loginSubmission]).1.cases ∧
      ((empty {}).submit (loginCase.resubmission : Submission Empty)).2.outcome = .ok loginCase ∧
      ((empty {}).submit (loginCase.resubmission : Submission Empty)).1.cases = [loginCase] := by
  have hcase : loginCase ∈
      ((empty { tagsAsSuffix := ["smoke".toList] }).submitAll [loginSubmission]).1.cases := by
    decide +kernel
  exact ⟨hcase, resubmission_committed hcase⟩

end Book

end Casebook
