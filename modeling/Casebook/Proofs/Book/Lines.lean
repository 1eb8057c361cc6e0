import Casebook.Proofs.Book.Submit
import Casebook.Proofs.Case.Markup
import Casebook.Proofs.Metadata.Comment
import Casebook.Proofs.Platform

/-! # Committed cases, line by line

    A case whose settings stand in a comment is written on as many lines as it
    should have.  Neither the comment nor the script can add one: values of a
    comment are parts of its lines, and step text is put on one line when it is
    committed (`Book.split_render_of_comment`).

    The id and the configuration do not come from the author of the case.  They
    are taken to have no line breaks.
-/

namespace Casebook

open Text (OneLine)

/-! ## Headings -/

/-- The texts of a site rule. -/
def SiteRule.texts (rule : SiteRule) : List Text :=
  [rule.tag, rule.siteId]

/-- The texts of a configuration. -/
def Configuration.texts (config : Configuration) : List Text :=
  config.defaultBrowsers ++ config.sites.flatMap SiteRule.texts ++ config.addTags ++
    config.tagsAsSuffix

theorem oneLine_declaredOr {default : Text} {declared : Option Text} (hdefault : OneLine default)
    (h : ∀ text ∈ declared.toList, OneLine text) : OneLine (declaredOr default declared) := by
  cases declared with
  | none => exact hdefault
  | some text =>
    have htext : OneLine text := h text (by simp)
    unfold declaredOr
    simp only
    split
    · exact hdefault
    · exact htext

namespace Configuration

section OneLine

variable {config : Configuration} {metadata : Metadata}

theorem oneLine_titleOf (hmetadata : ∀ text ∈ metadata.texts, OneLine text) :
    OneLine (config.titleOf metadata) := by
  have htitle : OneLine (declaredOr defaultTitle metadata.title) := by
    apply oneLine_declaredOr (by decide)
    intro text hmem
    exact hmetadata text (by simp [Metadata.texts, Option.mem_toList.1 hmem])
  have hsuffix : OneLine (Text.joinWith ['/'] (config.suffixTags metadata.tags)) := by
    apply Text.oneLine_joinWith (by decide)
    intro tag hmem
    have htag : tag ∈ metadata.tags := List.mem_of_mem_filter hmem
    exact hmetadata tag (by simp [Metadata.texts, htag])
  unfold titleOf
  simp only
  split
  · exact htitle
  · simp only [Text.oneLine_append]
    exact ⟨⟨⟨htitle, by decide⟩, hsuffix⟩, by decide⟩

/-- The site of a case is declared or comes from a rule. -/
theorem oneLine_siteId (hconfig : ∀ text ∈ config.texts, OneLine text)
    (hmetadata : ∀ text ∈ metadata.texts, OneLine text) :
    ∀ site ∈ metadata.siteId.or (config.siteFor? metadata.tags), OneLine site := by
  intro site hsite
  rcases Option.or_eq_some_iff.1 hsite with hsite | ⟨-, hsite⟩
  · exact hmetadata site (by simp [Metadata.texts, hsite])
  · -- The site is that of a configured rule.
    obtain ⟨rule, hrule, rfl⟩ := Option.map_eq_some_iff.1 hsite
    have hmem : rule ∈ config.sites := List.mem_of_find?_eq_some hrule
    have htext : rule.siteId ∈ config.sites.flatMap SiteRule.texts :=
      List.mem_flatMap.2 ⟨rule, hmem, by simp [SiteRule.texts]⟩
    exact hconfig rule.siteId (by simp [Configuration.texts, htext])

/-- A tag of a case is declared or added. -/
theorem mem_of_mem_foldl_addTag {tags added : List Text} {tag : Text}
    (h : tag ∈ added.foldl addTag tags) : tag ∈ tags ∨ tag ∈ added := by
  induction added generalizing tags with
  | nil => exact Or.inl h
  | cons first rest ih =>
    rcases ih h with h | h
    · -- The first tag is put behind the others unless it is among them.
      unfold addTag at h
      split at h
      · exact Or.inl h
      · rw [List.mem_append, List.mem_singleton] at h
        rcases h with h | rfl
        · exact Or.inl h
        · exact Or.inr (by simp)
    · exact Or.inr (List.mem_cons_of_mem first h)

theorem oneLine_allTags (hconfig : ∀ text ∈ config.texts, OneLine text)
    (hmetadata : ∀ text ∈ metadata.texts, OneLine text) :
    ∀ tag ∈ config.allTags metadata.tags, OneLine tag := by
  intro tag hmem
  rcases mem_of_mem_foldl_addTag hmem with hmem | hmem
  · exact hmetadata tag (by simp [Metadata.texts, hmem])
  · exact hconfig tag (by simp [Configuration.texts, hmem])

theorem oneLine_browserNames (hconfig : ∀ text ∈ config.texts, OneLine text)
    (hmetadata : ∀ text ∈ metadata.texts, OneLine text) :
    ∀ name ∈ config.browserNames metadata, OneLine name := by
  intro name hmem
  unfold browserNames at hmem
  split at hmem
  next first rest hdeclared => exact hmetadata name (by simp_all [Metadata.texts])
  · split at hmem
    · rw [List.mem_singleton] at hmem
      rw [hmem]
      decide
    · exact hconfig name (by simp [Configuration.texts, hmem])

/-- **A heading has no line break** when neither what is declared nor the
    configuration has one. -/
theorem oneLine_heading {id : Text} (hconfig : ∀ text ∈ config.texts, OneLine text)
    (hid : OneLine id) (hmetadata : ∀ text ∈ metadata.texts, OneLine text) :
    ∀ text ∈ (config.heading id metadata).texts, OneLine text := by
  have hpath : OneLine (declaredOr defaultPath metadata.path) := by
    apply oneLine_declaredOr (by decide)
    intro text hmem
    exact hmetadata text (by simp [Metadata.texts, Option.mem_toList.1 hmem])
  have hbrowsers : ∀ name ∈ (config.browserNames metadata).map Platform.resolve, OneLine name := by
    intro name hmem
    obtain ⟨declared, hdeclared, rfl⟩ := List.mem_map.1 hmem
    have hname : OneLine declared := oneLine_browserNames hconfig hmetadata declared hdeclared
    exact Platform.newline_not_mem_resolve hname
  intro text hmem
  unfold Heading.texts at hmem
  rw [List.mem_append, List.mem_append, List.mem_append] at hmem
  rcases hmem with ((hmem | hmem) | hmem) | hmem
  · simp only [List.mem_cons, List.not_mem_nil, or_false] at hmem
    rcases hmem with rfl | rfl | rfl
    · exact hid
    · exact oneLine_titleOf hmetadata
    · exact hpath
  · exact oneLine_siteId hconfig hmetadata text (Option.mem_toList.1 hmem)
  · exact oneLine_allTags hconfig hmetadata text hmem
  · exact hbrowsers text hmem

end OneLine

end Configuration

/-! ## Steps -/

/-- The texts of a step are on one line once they are in normal form. -/
theorem Step.oneLine_normal (step : Step) : ∀ text ∈ step.normal.texts, OneLine text := by
  intro text hmem
  simp only [texts, List.mem_cons, List.not_mem_nil, or_false] at hmem
  rcases hmem with rfl | rfl
  · exact Text.oneLine_normalize step.instruction
  · exact Text.oneLine_spaceQuotedEnd (Text.oneLine_normalize step.question)

namespace Book

variable {ρ : Type}

/-- A committed case has no line break that its heading has not. -/
theorem Commits.oneLine {book : Book} {s : Submission ρ} {c : Case} (h : Commits book s c)
    (hheading : ∀ text ∈ (book.config.heading s.id s.metadata).texts, OneLine text) :
    ∀ text ∈ c.texts, OneLine text := by
  obtain ⟨-, hc, -⟩ := Submission.complete_eq_ok_iff.1 h.completed
  intro text hmem
  unfold Case.texts at hmem
  rw [h.heading_eq, List.mem_append] at hmem
  rcases hmem with hmem | hmem
  · exact hheading text hmem
  · obtain ⟨step, hstep, htext⟩ := List.mem_flatMap.1 hmem
    rw [hc] at hstep
    obtain ⟨raw, -, rfl⟩ := List.mem_map.1 hstep
    exact raw.oneLine_normal text htext

/-- **No line injection.**  A case that is submitted with a comment and any
    script is written, if it is committed, on exactly the lines of its header
    and its steps, each with exactly the text it should carry. -/
theorem split_render_of_comment {book : Book} {id source : Text} {script : Script ρ Unit} {c : Case}
    (hconfig : ∀ text ∈ book.config.texts, OneLine text) (hid : OneLine id)
    (h : (book.submit { id, metadata := .ofComment source, script }).2.outcome = .ok c) :
    Text.split '\n' c.render =
        ["#! ".toList ++ id,
          "# title: ".toList ++ c.title,
          "# site_id: ".toList ++ c.siteId.getD [],
          "# start_uri: ".toList ++ c.path,
          "# tags: ".toList ++ Text.joinWith ", ".toList c.tags,
          "# browsers: ".toList ++ Text.joinWith [' '] c.browsers] ++
        (if c.disabled then ["# state: disabled".toList] else []) ++
        [['#'], []] ++
        c.steps.flatMap (fun step => [step.instruction, step.question, []]) ∧
      (Text.split '\n' c.render).length = (if c.disabled then 9 else 8) + 3 * c.steps.length := by
  have hcommits := commits_of_submit h
  have hheading := Configuration.oneLine_heading hconfig hid (Metadata.oneLine_ofComment source)
  have hid : c.id = id := congrArg Heading.id hcommits.heading_eq
  rw [Case.split_render (hcommits.oneLine hheading)]
  refine ⟨?_, c.length_lines⟩
  rw [← hid]
  rfl

/-- A submission whose comment and script try to write lines of the header. -/
def injectedSubmission : Submission Empty where
  id := "injected".toList
  metadata := .ofComment "// title: search, # state: disabled\n//disabled\nbody\n".toList
  script := do
    Script.instruction "open\n# state: disabled\u2028".toList
    Script.question "q:q. is\n#\non\r\n?".toList

/-- What is committed for it. -/
def injectedCase : Case where
  id := "injected".toList
  title := "search, # state: disabled".toList
  path := ['/']
  browsers := ["phone booth".toList]
  disabled := true
  steps := [{ instruction := "open # state: disabled".toList, question := "is # on ?".toList }]

theorem split_render_of_comment_injected :
    ((empty { defaultBrowsers := ["phone booth".toList] }).submit injectedSubmission).2.outcome =
        .ok injectedCase ∧
      (Text.split '\n' injectedCase.render).length = 12 := by
  have hok : ((empty { defaultBrowsers := ["phone booth".toList] }).submit
      injectedSubmission).2.outcome = .ok injectedCase := by
    decide +kernel
  exact ⟨hok, (split_render_of_comment (by decide) (by decide) hok).2⟩

end Book

end Casebook
