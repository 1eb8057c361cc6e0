import Casebook.Proofs.Book.Submit
import Casebook.Proofs.Platform
import Casebook.Proofs.Script

/-! # Committed cases

    What holds of every case that a book commits, whatever its author declares
    and whatever the configuration says (`Case.Committed`).

    * Its heading leaves nothing for a default to fill in, and its browsers are
      resolved (`Heading.Complete`).
    * Its steps are in normal form, with unmarked questions that ask
      (`Step.Final`).

    So the browsers of a committed case can be resolved again and stay as they are
    (`Book.browsers_settled`).
-/

namespace Casebook

/-! ## Headings -/

/-- No default applies to the heading, and no browser name is left to resolve. -/
structure Heading.Complete (heading : Heading) : Prop where
  title : heading.title ≠ []
  path : heading.path ≠ []
  browsers : heading.browsers ≠ []
  resolved : ∀ name ∈ heading.browsers, Platform.resolve name = name

theorem declaredOr_ne_nil {default : Text} (h : default ≠ []) (declared : Option Text) :
    declaredOr default declared ≠ [] := by
  unfold declaredOr
  split
  · exact h
  next text =>
    split
    · exact h
    next hempty => simpa using hempty

/-- A text that is declared and not empty is kept. -/
theorem declaredOr_some {default text : Text} (h : text ≠ []) :
    declaredOr default (some text) = text := by
  cases text with
  | nil => exact absurd rfl h
  | cons c text => rfl

namespace Configuration

theorem titleOf_ne_nil (config : Configuration) (metadata : Metadata) :
    config.titleOf metadata ≠ [] := by
  have htitle : declaredOr defaultTitle metadata.title ≠ [] := declaredOr_ne_nil (by decide) _
  unfold titleOf
  simp only
  split
  · exact htitle
  · simp [htitle]

theorem browserNames_ne_nil (config : Configuration) (metadata : Metadata) :
    config.browserNames metadata ≠ [] := by
  unfold browserNames
  split
  · simp
  · split
    · simp
    next hempty => simpa using hempty

/-- **Every heading is complete**, whatever was declared. -/
theorem complete_heading (config : Configuration) (id : Text) (metadata : Metadata) :
    (config.heading id metadata).Complete where
  title := titleOf_ne_nil config metadata
  path := declaredOr_ne_nil (by decide) metadata.path
  browsers := by simpa [heading] using browserNames_ne_nil config metadata
  resolved := by
    intro name hmem
    obtain ⟨declared, -, rfl⟩ := List.mem_map.1 hmem
    exact Platform.resolve_resolve declared

end Configuration

/-! ## Steps -/

/-- A step as it is committed: in normal form, with an unmarked question that
    asks. -/
structure Step.Final (step : Step) : Prop where
  normal : ∃ raw : Step, step = raw.normal
  unmarked : Marker.starts step.question = false
  asks : step.asks = true

theorem Step.Final.question_ne_nil {step : Step} (h : step.Final) : step.question ≠ [] := by
  intro hnil
  have hasks := h.asks
  rw [Step.asks, hnil] at hasks
  cases hasks

/-- **Declaring a final step again** makes the same step: neither the normal
    form nor the mark set apart from a quote changes a second time. -/
theorem Step.Final.normal_declared {step : Step} (h : step.Final) :
    step.declared.normal = step := by
  obtain ⟨raw, rfl⟩ := h.normal
  -- The space in front of the instruction is no word, so it does not count.
  have hinstruction : Text.normalize (' ' :: Text.normalize raw.instruction) =
      Text.normalize raw.instruction := by
    have hwords : Text.words (' ' :: Text.normalize raw.instruction) =
        Text.words (Text.normalize raw.instruction) := Text.words_cons_of_blank Text.isBlank_space _
    rw [Text.normalize_eq_of_words_eq hwords, Text.normalize_normalize]
  have hquestion := Text.question_normalize raw.question
  unfold Step.declared Step.normal
  rw [hinstruction, hquestion]

/-! ## Cases -/

/-- A case as a book commits it. -/
structure Case.Committed (c : Case) : Prop where
  hasId : ¬ Text.Blank c.id
  heading : c.toHeading.Complete
  steps : ∀ step ∈ c.steps, step.Final

namespace Book

variable {ρ : Type}

theorem Commits.committed {book : Book} {s : Submission ρ} {c : Case} (h : Commits book s c) :
    c.Committed := by
  have hheading := h.heading_eq
  obtain ⟨-, hc, hasks⟩ := Submission.complete_eq_ok_iff.1 h.completed
  refine ⟨?_, ?_, ?_⟩
  · rw [hheading]
    exact h.hasId
  · rw [hheading]
    exact book.config.complete_heading s.id s.metadata
  · intro step hmem
    -- The step is the normal form of one that the script declared.
    have hraw : step ∈ (s.script.run (book.config.heading s.id s.metadata) {}).outline.steps.map
        Step.normal := by
      rw [hc] at hmem
      exact hmem
    obtain ⟨raw, hmem', rfl⟩ := List.mem_map.1 hraw
    exact ⟨⟨raw, rfl⟩, Step.starts_normal (s.script.unmarked_run raw hmem'), hasks _ hmem⟩

/-- **Every case of a book is committed**, after any submissions. -/
theorem committed_of_mem_submitAll {config : Configuration} {history : List (Submission ρ)}
    {c : Case}
    (h : c ∈ ((empty config).submitAll history).1.cases) : c.Committed := by
  have hstep : ∀ (book : Book) (s : Submission ρ), (∀ c ∈ book.cases, c.Committed) →
      ∀ c ∈ (book.submit s).1.cases, c.Committed := by
    intro book s hbook c hmem
    rcases cases_submit book s with hcases | ⟨added, hcases, hadded⟩
    · rw [hcases] at hmem
      exact hbook c hmem
    · rw [hcases, List.mem_append, List.mem_singleton] at hmem
      rcases hmem with hmem | rfl
      · exact hbook c hmem
      · exact hadded.committed
  have hempty : ∀ c ∈ (empty config).cases, c.Committed := by
    intro c hmem
    cases hmem
  exact submitAll_invariant hstep hempty history c h

/-! ### Browsers -/

/-- **Browser names are resolved once and for all.**

    * A name with one of the words of `Platform.Known` is resolved to the identifier
      of a platform, and any other one stands for itself.  Identifiers and whatever
      else a name is resolved to are resolved to themselves.
    * Names that differ in the case of ASCII letters only are resolved to the same
      identifier, or both stand for themselves.
    * So nothing changes when the browsers of a case that was committed, under any
      configuration and after any submissions, are resolved again. -/
theorem browsers_settled (config : Configuration) (history : List (Submission ρ)) :
    (∀ name, (Platform.Known name ∧
          (∃ platform : Platform, Platform.resolve name = platform.identifier) ∨
        ¬ Platform.Known name ∧ Platform.resolve name = name) ∧
        Platform.resolve (Platform.resolve name) = Platform.resolve name) ∧
      (∀ platform : Platform, Platform.ofName? platform.identifier = some platform) ∧
      (∀ name other, Platform.SameLetters name other →
        (∃ platform : Platform, Platform.resolve name = platform.identifier ∧
            Platform.resolve other = platform.identifier) ∨
          Platform.resolve name = name ∧ Platform.resolve other = other) ∧
      ∀ c ∈ ((empty config).submitAll history).1.cases,
        c.browsers.map Platform.resolve = c.browsers := by
  refine ⟨?_, Platform.ofName?_identifier, ?_, ?_⟩
  · intro name
    exact ⟨Platform.resolve_cases name, Platform.resolve_resolve name⟩
  · intro name other hsame
    exact Platform.resolve_of_sameLetters hsame
  · intro c hmem
    have hresolved := (committed_of_mem_submitAll hmem).heading.resolved
    exact (List.map_congr_left hresolved).trans (List.map_id' c.browsers)

/-- A submission with browsers of which the first is no rule's: in lower case there
    is a dot between its two letters. -/
def dottedSubmission : Submission Empty where
  id := "dotted".toList
  metadata := { browsers := some ["\u0130E10".toList, "MAC ff".toList, "Mac Safari".toList] }
  script := .done ()

theorem browsers_settled_dotted :
    Platform.SameLetters "\u0130E10".toList "\u0130e10".toList ∧
      ¬ Platform.Known "\u0130E10".toList ∧
      ((∃ platform : Platform, Platform.resolve "\u0130E10".toList = platform.identifier ∧
            Platform.resolve "\u0130e10".toList = platform.identifier) ∨
          Platform.resolve "\u0130E10".toList = "\u0130E10".toList ∧
            Platform.resolve "\u0130e10".toList = "\u0130e10".toList) ∧
      ((empty {}).submitAll [dottedSubmission]).1.cases.map (fun c => c.browsers) =
        [["\u0130E10".toList, "osx_firefox_1440_900".toList, "safari_1440_900".toList]] ∧
      ∀ c ∈ ((empty {}).submitAll [dottedSubmission]).1.cases,
        c.browsers.map Platform.resolve = c.browsers := by
  obtain ⟨hnames, -, hletters, hcases⟩ := browsers_settled {} [dottedSubmission]
  have hsame : Platform.SameLetters "\u0130E10".toList "\u0130e10".toList := by
    unfold Platform.SameLetters
    decide
  have hknown : ¬ Platform.Known "\u0130E10".toList := by
    rw [← Platform.ofName?_eq_none_iff]
    decide
  exact ⟨hsame, hknown, hletters _ _ hsame, by decide +kernel, hcases⟩

end Book

end Casebook
