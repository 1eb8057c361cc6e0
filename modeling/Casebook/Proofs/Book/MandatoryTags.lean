import Casebook.Proofs.Book.Submit
import Casebook.Proofs.Script.IgnoresTags
import Mathlib.Data.List.Nodup

/-! # Tags of every case

    The tags that a configuration gives to every case come behind those that are
    declared, each of them once and only if it is not declared
    (`Configuration.allTags_eq_append`).

    They decide nothing.  If the scripts do not look at tags, two runs whose
    configurations differ in these tags go alike: the same submissions are
    refused for the same reasons, and the committed cases differ in their tags
    only (`Book.mandatory_tags`).  The runs are compared by a relation between
    their books that every submission keeps (`Book.SameButTags.submit`).
-/

namespace Casebook

variable {ρ : Type}

/-! ## The tags of a case -/

namespace Configuration

/-- The tags to be added to the declared ones: the mandatory tags that are not
    declared, once each, in the order in which they first occur. -/
structure Added (declared mandatory added : List Text) : Prop where
  mem_iff : ∀ tag, tag ∈ added ↔ tag ∈ mandatory ∧ tag ∉ declared
  once : added.Nodup
  ordered : added.Pairwise fun first later => mandatory.idxOf first < mandatory.idxOf later

section Added

variable {declared mandatory added : List Text} {tag : Text}

/-- The order of the added tags does not depend on further mandatory tags. -/
theorem Added.ordered_concat (h : Added declared mandatory added) (tag : Text) :
    added.Pairwise fun first later =>
      (mandatory ++ [tag]).idxOf first < (mandatory ++ [tag]).idxOf later := by
  refine h.ordered.imp_of_mem ?_
  intro first later hfirst hlater hlt
  rwa [List.idxOf_append_of_mem ((h.mem_iff first).1 hfirst).1,
    List.idxOf_append_of_mem ((h.mem_iff later).1 hlater).1]

/-- A further mandatory tag that is there already adds nothing. -/
theorem Added.of_mem (h : Added declared mandatory added) (htag : tag ∈ declared ++ added) :
    Added declared (mandatory ++ [tag]) added where
  mem_iff other := by
    rw [h.mem_iff, List.mem_append, List.mem_singleton]
    constructor
    · intro hleft
      exact ⟨Or.inl hleft.1, hleft.2⟩
    · intro hright
      obtain ⟨hmem | rfl, hother⟩ := hright
      · exact ⟨hmem, hother⟩
      · exact (h.mem_iff other).1 ((List.mem_append.1 htag).resolve_left hother)
  once := h.once
  ordered := h.ordered_concat tag

/-- A further mandatory tag that is not there yet comes behind the others. -/
theorem Added.concat (h : Added declared mandatory added) (htag : tag ∉ declared ++ added) :
    Added declared (mandatory ++ [tag]) (added ++ [tag]) := by
  rw [List.mem_append, not_or] at htag
  obtain ⟨hdeclared, hadded⟩ := htag
  have hnew : tag ∉ mandatory := by
    intro hmem
    exact hadded ((h.mem_iff tag).2 ⟨hmem, hdeclared⟩)
  refine ⟨?_, ?_, ?_⟩
  · intro other
    rw [List.mem_append, List.mem_append, List.mem_singleton, h.mem_iff]
    constructor
    · intro hleft
      rcases hleft with ⟨hmem, hother⟩ | rfl
      · exact ⟨Or.inl hmem, hother⟩
      · exact ⟨Or.inr rfl, hdeclared⟩
    · intro hright
      obtain ⟨hmem | rfl, hother⟩ := hright
      · exact Or.inl ⟨hmem, hother⟩
      · exact Or.inr rfl
  · rw [← List.concat_eq_append, List.nodup_concat]
    exact ⟨hadded, h.once⟩
  · refine List.pairwise_append.2 ⟨h.ordered_concat tag, List.pairwise_singleton _ _, ?_⟩
    intro first hfirst later hlater
    obtain rfl := List.mem_singleton.1 hlater
    have hmem := ((h.mem_iff first).1 hfirst).1
    have hlt := List.idxOf_lt_length_of_mem hmem
    rw [List.idxOf_append_of_mem hmem, List.idxOf_append_of_notMem hnew]
    omega

end Added

/-- **The tags of a case** are the declared ones, and behind them the mandatory ones
    that are not declared. -/
theorem allTags_eq_append (config : Configuration) (declared : List Text) :
    ∃ added, config.allTags declared = declared ++ added ∧
      Added declared config.addTags added := by
  unfold allTags
  -- By induction on the mandatory tags from their end: each of them is looked for
  -- among the declared tags and those that were added before it.
  induction config.addTags using List.reverseRecOn with
  | nil => exact ⟨[], (List.append_nil _).symm, by simp, List.nodup_nil, List.Pairwise.nil⟩
  | append_singleton mandatory tag ih =>
    obtain ⟨added, htags, hadded⟩ := ih
    rw [List.foldl_append, htags, List.foldl_cons, List.foldl_nil, addTag]
    split
    next hmem => exact ⟨added, rfl, hadded.of_mem (List.contains_iff_mem.1 hmem)⟩
    next hnew =>
      have hnew : tag ∉ declared ++ added := mt List.contains_iff_mem.2 hnew
      exact ⟨added ++ [tag], List.append_assoc _ _ _, hadded.concat hnew⟩

/-- The configuration with other mandatory tags. -/
def withTags (config : Configuration) (mandatory : List Text) : Configuration :=
  { config with addTags := mandatory }

/-- The mandatory tags decide nothing of a heading but its tags. -/
theorem heading_withTags (config : Configuration) (mandatory : List Text) (id : Text)
    (metadata : Metadata) :
    (config.withTags mandatory).heading id metadata =
      { config.heading id metadata with
        tags := (config.withTags mandatory).allTags metadata.tags } := rfl

end Configuration

/-! ## Cases and reports without tags -/

/-- The case without its tags. -/
def Case.untagged (c : Case) : Case :=
  { c with tags := [] }

/-- The report without the tags of the case that it reports. -/
def Report.untagged (report : Report ρ) : Report ρ :=
  { report with outcome := report.outcome.map Case.untagged }

theorem Report.cases_untagged (report : Report ρ) :
    report.untagged.cases = report.cases.map Case.untagged := by
  obtain ⟨outcome, started, remarks⟩ := report
  cases outcome <;> rfl

theorem Report.failures_untagged (report : Report ρ) (id : Text) :
    report.untagged.failures id = report.failures id := by
  obtain ⟨outcome, started, remarks⟩ := report
  cases outcome <;> rfl

/-- What a script that ignores tags makes of two headings that differ in their tags
    differs in the tags only. -/
theorem Submission.untagged_complete {s : Submission ρ} (h : s.script.IgnoresTags)
    (heading : Heading) (tags : List Text) :
    (s.complete { heading with tags }).untagged = (s.complete heading).untagged := by
  unfold Submission.complete Report.untagged
  rw [h.run_eq]
  generalize s.script.run heading {} = run
  obtain ⟨outcome, outline, remarks⟩ := run
  cases outcome with
  | error fault => rfl
  | ok value =>
    dsimp only
    cases outline.commit <;> rfl

namespace Book

/-! ## Runs that differ in the mandatory tags -/

/-- The books have the same names taken, the same failures, and the same cases but
    for their tags.  Their configurations differ in the mandatory tags only. -/
structure SameButTags (book other : Book) : Prop where
  config : ∃ mandatory, other.config = book.config.withTags mandatory
  ids : other.ids = book.ids
  titles : other.titles = book.titles
  cases : other.cases.map Case.untagged = book.cases.map Case.untagged
  failures : other.failures = book.failures

section SameButTags

variable {book other : Book} {s : Submission ρ}

/-- **Mandatory tags decide no check**, so that a submission gets equally far in both
    books. -/
theorem SameButTags.examine (h : SameButTags book other) (hscript : s.script.IgnoresTags) :
    SameButTags (book.examine s).1 (other.examine s).1 ∧
      (other.examine s).2.untagged = (book.examine s).2.untagged := by
  obtain ⟨config, cases, failures, ids, titles⟩ := book
  obtain ⟨config', cases', failures', ids', titles'⟩ := other
  obtain ⟨⟨mandatory, hconfig⟩, hids, htitles, hcases, hfailures⟩ := h
  dsimp only at hconfig hids htitles hcases hfailures
  subst hconfig hids htitles hfailures
  unfold Book.examine
  dsimp only [takeId, takeTitle]
  rw [Configuration.heading_withTags]
  -- The checks look at the id and at the title of the heading.
  split
  · exact ⟨⟨⟨mandatory, rfl⟩, rfl, rfl, hcases, rfl⟩, rfl⟩
  · split
    · exact ⟨⟨⟨mandatory, rfl⟩, rfl, rfl, hcases, rfl⟩, rfl⟩
    · split
      · exact ⟨⟨⟨mandatory, rfl⟩, rfl, rfl, hcases, rfl⟩, rfl⟩
      · exact ⟨⟨⟨mandatory, rfl⟩, rfl, rfl, hcases, rfl⟩,
          Submission.untagged_complete hscript _ _⟩

/-- **A submission keeps the books the same but for tags**, and it is reported in
    the same way but for tags. -/
theorem SameButTags.submit (h : SameButTags book other) (hscript : s.script.IgnoresTags) :
    SameButTags (book.submit s).1 (other.submit s).1 ∧
      (other.submit s).2.untagged = (book.submit s).2.untagged := by
  obtain ⟨hnext, hreport⟩ := h.examine hscript
  obtain ⟨hids, htitles, hconfig⟩ := record_names (book.examine s).1 s.id (book.examine s).2
  obtain ⟨hids', htitles', hconfig'⟩ := record_names (other.examine s).1 s.id (other.examine s).2
  obtain ⟨hcases, hfailures⟩ := recorded_iff.1 (recorded_submit book s)
  obtain ⟨hcases', hfailures'⟩ := recorded_iff.1 (recorded_submit other s)
  have hsame : (other.submit s).2.untagged = (book.submit s).2.untagged := hreport
  refine ⟨⟨?_, hids'.trans (hnext.ids.trans hids.symm),
    htitles'.trans (hnext.titles.trans htitles.symm), ?_, ?_⟩, hsame⟩
  · rw [config_submit, config_submit]
    exact h.config
  · -- The new case, if there is one, is the same but for its tags.
    rw [hcases', hcases, List.map_append, List.map_append, h.cases, ← Report.cases_untagged,
      ← Report.cases_untagged, hsame]
  · rw [hfailures', hfailures, h.failures, ← Report.failures_untagged, hsame,
      Report.failures_untagged]

/-- **The runs stay the same but for tags**, submission by submission. -/
theorem SameButTags.submitAll (h : SameButTags book other) {history : List (Submission ρ)}
    (hscripts : ∀ s ∈ history, s.script.IgnoresTags) :
    SameButTags (book.submitAll history).1 (other.submitAll history).1 ∧
      (other.submitAll history).2.map Report.untagged =
        (book.submitAll history).2.map Report.untagged := by
  induction history generalizing book other with
  | nil => exact ⟨h, rfl⟩
  | cons s rest ih =>
    rw [List.forall_mem_cons] at hscripts
    obtain ⟨hnext, hreport⟩ := h.submit hscripts.1
    obtain ⟨hlast, hreports⟩ := ih hnext hscripts.2
    rw [submitAll_cons, submitAll_cons, List.map_cons, List.map_cons, hreport, hreports]
    exact ⟨hlast, rfl⟩

end SameButTags

/-! ## The main result -/

/-- What is committed for the submission has its declared tags, and behind them those
    that the configuration adds. -/
def TagsAdded (config : Configuration) (s : Submission ρ) (report : Report ρ) : Prop :=
  ∀ c, report.outcome = .ok c → ∃ added, c.tags = s.metadata.tags ++ added ∧
    Configuration.Added s.metadata.tags config.addTags added

theorem tagsAdded_submit {config : Configuration} (book : Book) (s : Submission ρ)
    (h : book.config = config) : TagsAdded config s (book.submit s).2 := by
  intro c hc
  have hheading := (commits_of_submit hc).heading_eq
  rw [h] at hheading
  have htags : c.tags = config.allTags s.metadata.tags := congrArg Heading.tags hheading
  rw [htags]
  exact config.allTags_eq_append s.metadata.tags

/-- **Mandatory tags are added once and decide nothing.**

    * In every run, a case is committed with its declared tags as they are, and
      behind them the mandatory tags that are not declared, once each and in the
      order in which they first occur.
    * If no script of a run looks at tags, the run goes in the same way with any
      other mandatory tags: the reports are the same but for the tags of committed
      cases, and so are the cases and the failures. -/
theorem mandatory_tags (config : Configuration) (history : List (Submission ρ)) :
    List.Forall₂ (TagsAdded config) history ((empty config).submitAll history).2 ∧
      ((∀ s ∈ history, s.script.IgnoresTags) → ∀ mandatory,
        let run := (empty config).submitAll history
        let other := (empty (config.withTags mandatory)).submitAll history
        other.2.map Report.untagged = run.2.map Report.untagged ∧
          other.1.failures = run.1.failures ∧
          other.1.cases.map Case.untagged = run.1.cases.map Case.untagged) := by
  have hconfig : (empty config).config = config := rfl
  refine ⟨forall₂_submitAll tagsAdded_submit hconfig history, ?_⟩
  intro hscripts mandatory run other
  have hempty : SameButTags (empty config) (empty (config.withTags mandatory)) :=
    ⟨⟨mandatory, rfl⟩, rfl, rfl, rfl, rfl⟩
  obtain ⟨hlast, hreports⟩ := hempty.submitAll hscripts
  exact ⟨hreports, hlast.failures, hlast.cases⟩

/-- Mandatory tags of which one is there twice, and tags that show in titles and
    lead to sites. -/
def smokeTags : Configuration where
  sites := [⟨"mobile".toList, "7".toList⟩]
  addTags := ["smoke".toList, "login".toList, "beta".toList, "smoke".toList]
  tagsAsSuffix := ["mobile".toList, "beta".toList]

/-- Submissions whose scripts branch on the browser.  The second has the title of the
    first, with the tag that shows in it, and the last asks nothing. -/
def browserSubmissions : List (Submission Empty) :=
  let script : Script Empty Unit :=
    (Script.hasBrowser "ie".toList).bind fun onIe =>
      if onIe then Script.step "Go.\nGone?".toList else Script.step "Go.".toList
  let submission (id title : Text) (tags browsers : List Text) : Submission Empty :=
    { id, metadata := { title := some title, tags, browsers := some browsers }, script }
  [submission "a".toList "Shop".toList ["login".toList, "mobile".toList, "login".toList]
      ["ie9".toList],
    submission "b".toList "Shop".toList ["mobile".toList] ["ie9".toList],
    submission "c".toList "Shop".toList [] ["ie10".toList],
    submission "d".toList "Plain".toList [] ["chrome".toList]]

theorem ignoresTags_browserSubmissions :
    ∀ s ∈ browserSubmissions, s.script.IgnoresTags := by
  have hscript : ∀ onIe : Bool, (if onIe then Script.step "Go.\nGone?".toList
      else Script.step "Go.".toList : Script Empty Unit).IgnoresTags := by
    intro onIe
    cases onIe
    · exact Script.ignoresTags_step _
    · exact Script.ignoresTags_step _
  simp only [browserSubmissions, List.forall_mem_cons, List.not_mem_nil, false_imp_iff,
    implies_true, and_true, and_self]
  exact (Script.ignoresTags_hasBrowser _).bind hscript

theorem mandatory_tags_browsers :
    let run := (empty smokeTags).submitAll browserSubmissions
    let other := (empty (smokeTags.withTags ["mobile".toList])).submitAll browserSubmissions
    (∀ s ∈ browserSubmissions, s.script.IgnoresTags) ∧
      List.Forall₂ (TagsAdded smokeTags) browserSubmissions run.2 ∧
      run.1.cases.map (fun c => (c.title, c.siteId, c.tags)) =
        [("Shop (mobile)".toList, some "7".toList,
            ["login".toList, "mobile".toList, "login".toList, "smoke".toList, "beta".toList]),
          ("Shop".toList, none, ["smoke".toList, "login".toList, "beta".toList])] ∧
      run.1.failures = [⟨"b".toList, .duplicateTitle "Shop (mobile)".toList⟩,
        ⟨"d".toList, .malformedQuestion "Go.".toList⟩] ∧
      other.2.map Report.untagged = run.2.map Report.untagged ∧
      other.1.failures = run.1.failures ∧
      other.1.cases.map Case.untagged = run.1.cases.map Case.untagged := by
  intro run other
  obtain ⟨hadded, hsame⟩ := mandatory_tags smokeTags browserSubmissions
  refine ⟨ignoresTags_browserSubmissions, hadded, by decide +kernel, by decide +kernel, ?_⟩
  exact hsame ignoresTags_browserSubmissions ["mobile".toList]

end Book

end Casebook
