import Casebook.Case.Markup
import Casebook.Proofs.Text.Lines

/-! # Reading RFML

    The text of a case is its lines as long as none of the texts in it has a
    line break (`split_render`).  The lines are then read by their position: six
    labelled ones, the state of the case if it is switched off, the end of the
    header, and three for each step.

    So the text determines the case (`render_determines`).  Only a case without
    a site and one whose site has an empty id look the same.
-/

namespace Casebook

/-- The texts of a step. -/
def Step.texts (step : Step) : List Text :=
  [step.instruction, step.question]

/-- The texts of a heading. -/
def Heading.texts (heading : Heading) : List Text :=
  [heading.id, heading.title, heading.path] ++ heading.siteId.toList ++ heading.tags ++
    heading.browsers

namespace Case

open Text (OneLine)

/-- The texts of a case. -/
def texts (c : Case) : List Text :=
  c.toHeading.texts ++ c.steps.flatMap Step.texts

/-! ## Lines -/

theorem oneLine_stepLines {step : Step} (h : ∀ text ∈ step.texts, OneLine text) :
    ∀ line ∈ stepLines step, OneLine line := by
  intro line hmem
  have hcases : line ∈ step.texts ∨ line = [] := by
    simpa [stepLines, Step.texts, or_assoc] using hmem
  rcases hcases with hmem | rfl
  · exact h line hmem
  · exact Text.oneLine_nil

theorem oneLine_headerLines {c : Case} (h : ∀ text ∈ c.toHeading.texts, OneLine text) :
    ∀ line ∈ c.headerLines, OneLine line := by
  have hsite : OneLine (c.siteId.getD []) := by
    cases hsite : c.siteId with
    | none => exact Text.oneLine_nil
    | some site => exact h site (by simp [Heading.texts, hsite])
  have htags : OneLine (Text.joinWith ", ".toList c.tags) := by
    apply Text.oneLine_joinWith (by decide)
    intro tag hmem
    exact h tag (by simp [Heading.texts, hmem])
  have hbrowsers : OneLine (Text.joinWith [' '] c.browsers) := by
    apply Text.oneLine_joinWith (by decide)
    intro name hmem
    exact h name (by simp [Heading.texts, hmem])
  have hid : OneLine c.id := h c.id (by simp [Heading.texts])
  have htitle : OneLine c.title := h c.title (by simp [Heading.texts])
  have hpath : OneLine c.path := h c.path (by simp [Heading.texts])
  intro line hmem
  simp only [headerLines, List.mem_cons, List.not_mem_nil, or_false] at hmem
  rcases hmem with rfl | rfl | rfl | rfl | rfl | rfl <;> rw [Text.oneLine_append]
  · exact ⟨by decide, hid⟩
  · exact ⟨by decide, htitle⟩
  · exact ⟨by decide, hsite⟩
  · exact ⟨by decide, hpath⟩
  · exact ⟨by decide, htags⟩
  · exact ⟨by decide, hbrowsers⟩

theorem oneLine_stateLines (c : Case) : ∀ line ∈ c.stateLines, OneLine line := by
  unfold stateLines
  split <;> decide

/-- **The text of a case, cut at line breaks, is its lines** when no text of the
    case has a line break. -/
theorem split_render {c : Case} (h : ∀ text ∈ c.texts, OneLine text) :
    Text.split '\n' c.render = c.lines := by
  have hheading : ∀ text ∈ c.toHeading.texts, OneLine text := by
    intro text hmem
    exact h text (List.mem_append_left _ hmem)
  have hsteps : ∀ step ∈ c.steps, ∀ text ∈ step.texts, OneLine text := by
    intro step hstep text hmem
    exact h text (List.mem_append_right _ (List.mem_flatMap.2 ⟨step, hstep, hmem⟩))
  apply Text.split_joinWith
  · simp [lines]
  · intro line hmem
    unfold lines at hmem
    rw [List.mem_append, List.mem_append, List.mem_append] at hmem
    rcases hmem with ((hmem | hmem) | hmem) | hmem
    · exact oneLine_headerLines hheading line hmem
    · exact oneLine_stateLines c line hmem
    · revert line
      decide
    · obtain ⟨step, hstep, hmem⟩ := List.mem_flatMap.1 hmem
      exact oneLine_stepLines (hsteps step hstep) line hmem

/-- Eight lines without steps, one more for the state, and three for each step. -/
theorem length_lines (c : Case) :
    c.lines.length = (if c.disabled then 9 else 8) + 3 * c.steps.length := by
  have hsteps : (c.steps.flatMap stepLines).length = 3 * c.steps.length := by
    induction c.steps with
    | nil => rfl
    | cons step rest ih =>
      rw [List.flatMap_cons, List.length_append, ih, List.length_cons]
      show 3 + 3 * rest.length = 3 * (rest.length + 1)
      omega
  unfold lines
  rw [List.length_append, hsteps]
  unfold headerLines stateLines
  split <;> rfl

/-! ## Reading the lines -/

/-- The lines of steps, three for each, determine the steps. -/
theorem flatMap_stepLines_inj {steps others : List Step}
    (h : steps.flatMap stepLines = others.flatMap stepLines) : steps = others := by
  induction steps generalizing others with
  | nil =>
    cases others with
    | nil => rfl
    | cons other others => cases h
  | cons step steps ih =>
    cases others with
    | nil => cases h
    | cons other others =>
      rw [List.flatMap_cons, List.flatMap_cons] at h
      obtain ⟨hstep, hrest⟩ := List.append_inj h rfl
      have hsame : step = other := by
        obtain ⟨instruction, question⟩ := step
        obtain ⟨instruction', question'⟩ := other
        simpa [stepLines] using hstep
      rw [hsame, ih hrest]

/-- The lines behind the labelled ones determine the state and the steps: the
    line of a case that is switched off is not the one that ends the header. -/
theorem stateLines_append_inj {t u : Case}
    (h : t.stateLines ++ [['#'], []] ++ t.steps.flatMap stepLines =
      u.stateLines ++ [['#'], []] ++ u.steps.flatMap stepLines) :
    t.disabled = u.disabled ∧ t.steps = u.steps := by
  have hne : "# state: disabled".toList ≠ ['#'] := by decide
  -- If only one case is switched off, the first lines behind the header differ.
  unfold stateLines at h
  cases ht : t.disabled with
  | true =>
    cases hu : u.disabled with
    | true =>
      rw [ht, hu] at h
      exact ⟨rfl, flatMap_stepLines_inj (List.append_cancel_left h)⟩
    | false =>
      rw [ht, hu] at h
      exact absurd (List.cons.inj h).1 hne
  | false =>
    cases hu : u.disabled with
    | true =>
      rw [ht, hu] at h
      exact absurd (List.cons.inj h).1.symm hne
    | false =>
      rw [ht, hu] at h
      exact ⟨rfl, flatMap_stepLines_inj (List.append_cancel_left h)⟩

/-- A case whose text can be read back: no text has a line break, and no tag or
    browser looks like several or like none. -/
structure Readable (c : Case) : Prop where
  texts : ∀ text ∈ c.texts, OneLine text
  tags : ∀ tag ∈ c.tags, tag ≠ [] ∧ ',' ∉ tag
  browsers : ∀ name ∈ c.browsers, name ≠ [] ∧ ' ' ∉ name

/-- **The text determines the case.**  Two readable cases with the same text
    have the same heading and the same steps, but for the difference between no
    site and an empty one. -/
theorem render_determines {t u : Case} (ht : t.Readable) (hu : u.Readable)
    (h : t.render = u.render) :
    t.id = u.id ∧ t.title = u.title ∧ t.siteId.getD [] = u.siteId.getD [] ∧ t.path = u.path ∧
      t.tags = u.tags ∧ t.browsers = u.browsers ∧ t.disabled = u.disabled ∧ t.steps = u.steps := by
  have hlines : t.lines = u.lines := by rw [← split_render ht.texts, h, split_render hu.texts]
  unfold lines at hlines
  rw [List.append_assoc, List.append_assoc, List.append_assoc, List.append_assoc] at hlines
  -- Both headers have six lines, so they end at the same place.
  obtain ⟨hheader, hrest⟩ := List.append_inj hlines rfl
  obtain ⟨hid, hheader⟩ := List.cons.inj hheader
  obtain ⟨htitle, hheader⟩ := List.cons.inj hheader
  obtain ⟨hsite, hheader⟩ := List.cons.inj hheader
  obtain ⟨hpath, hheader⟩ := List.cons.inj hheader
  obtain ⟨htags, hheader⟩ := List.cons.inj hheader
  obtain ⟨hbrowsers, -⟩ := List.cons.inj hheader
  rw [← List.append_assoc, ← List.append_assoc] at hrest
  obtain ⟨hdisabled, hsteps⟩ := stateLines_append_inj hrest
  exact ⟨List.append_cancel_left hid, List.append_cancel_left htitle,
    List.append_cancel_left hsite, List.append_cancel_left hpath,
    Text.joinWith_inj ht.tags hu.tags (List.append_cancel_left htags),
    Text.joinWith_inj ht.browsers hu.browsers (List.append_cancel_left hbrowsers), hdisabled,
    hsteps⟩

/-- A case whose title and steps look like lines of the header. -/
def lookalike (siteId : Option Text) : Case where
  id := "lookalike".toList
  title := "# state: disabled".toList
  siteId
  path := ['/']
  tags := ["search".toList, "view content".toList]
  browsers := ["chrome_1440_900".toList]
  disabled := true
  steps := [
    { instruction := ['#'], question := [] },
    { instruction := [], question := "#!".toList }]

theorem render_determines_lookalike :
    (lookalike none).Readable ∧ (lookalike (some [])).Readable ∧
      (lookalike none).render = (lookalike (some [])).render ∧
      (lookalike none).steps = (lookalike (some [])).steps := by
  have hnone : (lookalike none).Readable := ⟨by decide, by decide, by decide⟩
  have hsome : (lookalike (some [])).Readable := ⟨by decide, by decide, by decide⟩
  have hrender : (lookalike none).render = (lookalike (some [])).render := rfl
  obtain ⟨-, -, -, -, -, -, -, hsteps⟩ := render_determines hnone hsome hrender
  exact ⟨hnone, hsome, hrender, hsteps⟩

end Case

end Casebook
