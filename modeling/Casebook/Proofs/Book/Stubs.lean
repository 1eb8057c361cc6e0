import Casebook.Case.Stub
import Casebook.Proofs.Book.Success
import Casebook.Proofs.Case.Committed
import Casebook.Proofs.Metadata.Written

/-! # Stubs are accepted

    The source code of a stub holds an id and a comment.  The comment is read
    back to a numbered title and the one tag, and the other lines of the code set
    nothing (`Stub.ofComment_text`).  The numbers keep the titles of stubs apart,
    so a book takes as many of them as there are different ids
    (`Stub.submissions_committed`).
-/

namespace Casebook

namespace Stub

open Text (OneLine Blank decimal)

variable {ρ : Type}

/-! ## Numbered titles -/

/-- The title of the stub with a number. -/
def title (number : Nat) : Text :=
  "new test ".toList ++ decimal number

theorem decimal_inj {n m : Nat} (h : decimal n = decimal m) : n = m := by
  have hvalue := congrArg (fun digits => Nat.ofDigitChars 10 digits 0) h
  simpa [decimal] using hvalue

theorem title_inj {n m : Nat} (h : title n = title m) : n = m :=
  decimal_inj (List.append_cancel_left h)

theorem not_mem_title {c : Char} (hword : c ∉ "new test ".toList) (hdigit : c.isDigit = false)
    (number : Nat) : c ∉ title number := by
  intro hmem
  rcases List.mem_append.1 hmem with hmem | hmem
  · exact hword hmem
  · rw [Text.isDigit_of_mem_decimal hmem] at hdigit
    cases hdigit

/-- A numbered title can be written as a value. -/
theorem isValue_title (number : Nat) : Setting.IsValue (title number) where
  nonempty := List.append_ne_nil_of_left_ne_nil (by decide) _
  trimmed := by
    have hstart : Text.trimStart (title number) = title number := by
      show Text.trimStart ('n' :: ("ew test ".toList ++ decimal number)) = _
      rw [Text.trimStart_cons, if_neg (by decide)]
      rfl
    -- The last character is a digit of the number.
    have hend : ∀ c, (title number).getLast? = some c → Text.isBlank c = false := by
      intro c hc
      unfold title at hc
      rw [List.getLast?_append_of_ne_nil _ (Text.decimal_ne_nil number)] at hc
      have hdigit := Text.isDigit_of_mem_decimal (List.mem_of_getLast? hc)
      exact Text.isBlank_of_isDigit hdigit
    rw [Text.trim, hstart, Text.trimEnd_eq_self hend]
  noComma := not_mem_title (by decide) (by decide) number
  oneLine := not_mem_title (by decide) (by decide) number

/-! ## The comment of a stub -/

/-- The lines of a stub. -/
def lines (id : Text) (number : Nat) (tag : Text) : List Text :=
  [[],
   "registry.register(\"".toList ++ id ++ "\", \"".toList,
   "    ".toList ++ Setting.line ("title".toList, .list [title number]),
   "    ".toList ++ Setting.line ("tags".toList, .list [tag]),
   "\", |t| \x7b".toList,
   "    Ok(())".toList,
   "\x7d);".toList]

theorem text_eq_joinWith (id : Text) (number : Nat) (tag : Text) :
    text id number tag = Text.joinWith ['\n'] (lines id number tag) := by
  have hopen : "\nregistry.register(\"".toList = '\n' :: "registry.register(\"".toList := by
    decide +kernel
  have htitle : "\", \"\n    // title: new test ".toList =
      "\", \"".toList ++ '\n' :: ("    ".toList ++ ("// ".toList ++ ("title".toList ++
        (": ".toList ++ "new test ".toList)))) := by
    decide +kernel
  have htags : "\n    // tags: ".toList =
      '\n' :: ("    ".toList ++ ("// ".toList ++ ("tags".toList ++ ": ".toList))) := by
    decide +kernel
  have hclose : "\n\", |t| \x7b\n    Ok(())\n\x7d);".toList =
      '\n' :: ("\", |t| \x7b".toList ++
        '\n' :: ("    Ok(())".toList ++ '\n' :: "\x7d);".toList)) := by
    decide +kernel
  -- The text is given in pieces that end in the middle of lines; both sides are the
  -- same once these are cut at the line breaks and at the values.
  unfold text lines title Setting.line Setting.written
  rw [hopen, htitle, htags, hclose]
  simp only [Text.joinWith_cons_cons, Text.joinWith_singleton, List.append_assoc, List.cons_append,
    List.nil_append]

/-- The lines of a stub are read as they are. -/
theorem split_text {id tag : Text} (hid : OneLine id) (htag : Setting.IsValue tag) (number : Nat) :
    Text.split '\n' (text id number tag) = lines id number tag := by
  have hsetting : ∀ (name value : Text), Setting.IsName name → Setting.IsValue value →
      OneLine (Setting.line (name, .list [value])) := by
    intro name value hname hvalue
    exact Setting.oneLine_line ⟨hname, by simpa [Setting.values] using hvalue⟩
  rw [text_eq_joinWith]
  apply Text.split_joinWith (by simp [lines])
  intro line hmem
  show OneLine line
  unfold lines at hmem
  simp only [List.mem_cons, List.not_mem_nil, or_false] at hmem
  rcases hmem with rfl | rfl | rfl | rfl | rfl | rfl | rfl
  · exact Text.oneLine_nil
  · rw [Text.oneLine_append, Text.oneLine_append]
    exact ⟨⟨by decide +kernel, hid⟩, by decide +kernel⟩
  · exact Text.oneLine_append.2 ⟨by decide, hsetting _ _ (by decide) (isValue_title number)⟩
  · exact Text.oneLine_append.2 ⟨by decide, hsetting _ _ (by decide) htag⟩
  · decide +kernel
  · decide +kernel
  · decide +kernel

/-- A line that begins with another character than a slash sets nothing. -/
theorem ofLine?_cons {c : Char} (hblank : Text.isBlank c = false) (hc : '/' ≠ c) (rest : Text) :
    Setting.ofLine? (c :: rest) = none := by
  have hstart : Text.trimStart (c :: rest) = c :: rest := by
    rw [Text.trimStart_cons, hblank, if_neg Bool.false_ne_true]
  have hsign : Text.dropPiece? commentSign (c :: rest) = none := if_neg hc
  rw [Setting.ofLine?, hstart, hsign]

/-- Blanks in front of a line make no difference. -/
theorem ofLine?_append {blanks : Text} (h : Blank blanks) (line : Text) :
    Setting.ofLine? (blanks ++ line) = Setting.ofLine? line := by
  rw [Setting.ofLine?, Text.trimStart_append, if_pos h]
  rfl

/-- What a stub declares, whatever its id. -/
def metadata (number : Nat) (tag : Text) : Metadata where
  title := some (title number)
  tags := [tag]

/-- **The comment of a stub** declares its title and its tag. -/
theorem ofComment_text {id tag : Text} (hid : OneLine id) (htag : Setting.IsValue tag)
    (number : Nat) :
    Metadata.ofComment (text id number tag) = metadata number tag := by
  have hindent : Blank "    ".toList := by decide
  have hsetting : ∀ (name value : Text), Setting.IsName name → Setting.IsValue value →
      Setting.ofLine? ("    ".toList ++ Setting.line (name, .list [value])) =
        some (name, .list [value]) := by
    intro name value hname hvalue
    rw [ofLine?_append hindent]
    exact Setting.ofLine?_line ⟨hname, by simpa [Setting.values] using hvalue⟩
  have htitle := hsetting "title".toList _ (by decide) (isValue_title number)
  have htags := hsetting "tags".toList _ (by decide) htag
  have hcode : Setting.ofLine? ("registry.register(\"".toList ++ id ++ "\", \"".toList) = none := by
    rw [List.append_assoc]
    exact ofLine?_cons (by decide) (by decide) _
  have hclosing : Setting.ofLine? "\", |t| \x7b".toList = none ∧
      Setting.ofLine? "    Ok(())".toList = none ∧ Setting.ofLine? "\x7d);".toList = none := by
    decide +kernel
  have hsettings : Settings.ofComment (text id number tag) =
      (({} : Settings).set "title".toList (.list [title number])).set "tags".toList
        (.list [tag]) := by
    rw [Settings.ofComment, split_text hid htag]
    simp only [Settings.ofLines, lines, List.foldl_cons, List.foldl_nil, Settings.addLine, hcode,
      htitle, htags, hclosing]
    rfl
  have hget : ∀ name, (Settings.ofComment (text id number tag)).get? name =
      if name = "tags".toList then some (.list [tag])
      else if name = "title".toList then some (.list [title number]) else none := by
    intro name
    rw [hsettings, Settings.get?_set, Settings.get?_set]
    rfl
  simp [Metadata.ofComment, Metadata.ofSettings, Settings.list?, Settings.has, hget, metadata]

/-! ## Submitting stubs -/

/-- The submission that a stub stands for: its id and its comment, and a script
    that does nothing. -/
def submission (id stub : Text) : Submission ρ where
  id := id
  metadata := .ofComment stub
  script := .done ()

/-- The submissions of several stubs, numbered from one. -/
def submissions (ids : List Text) (tag : Text) : List (Submission ρ) :=
  List.zipWith submission ids
    (several (fun number => ids.getD (number - 1) []) ids.length tag)

theorem submissions_eq_mapIdx (ids : List Text) (tag : Text) :
    (submissions ids tag : List (Submission ρ)) =
      ids.mapIdx fun i id => submission id (text id (i + 1) tag) := by
  apply List.ext_getElem
  · simp [submissions, several]
  · intro i hi hi'
    have hbound : i < ids.length := by simpa using hi'
    simp [submissions, several, List.getElem_zipWith, hbound]

/-- The tag of the first rule leads to its site, whatever rules follow. -/
theorem siteFor?_firstSiteTag (config : Configuration) :
    config.siteFor? [config.firstSiteTag] = config.sites.head?.map SiteRule.siteId := by
  unfold Configuration.siteFor? Configuration.firstSiteTag
  cases config.sites <;> simp

/-- Tags that are added come behind those that are declared. -/
theorem prefix_allTags (config : Configuration) (tags : List Text) :
    tags <+: config.allTags tags := by
  -- By induction on the added tags, since each step leaves what is in front.
  have hadd : ∀ (tags : List Text) (tag : Text), tags <+: Configuration.addTag tags tag := by
    intro tags tag
    unfold Configuration.addTag
    split
    · exact List.prefix_rfl
    · exact List.prefix_append _ _
  unfold Configuration.allTags
  induction config.addTags generalizing tags with
  | nil => exact List.prefix_rfl
  | cons tag rest ih => exact (hadd tags tag).trans (ih _)

/-- The title of a stub's case is the numbered title, with the same text behind it
    whatever the number. -/
theorem titleOf_metadata (config : Configuration) (tag : Text) :
    ∃ suffix, ∀ number, config.titleOf (metadata number tag) = title number ++ suffix := by
  have hkept : ∀ number, declaredOr defaultTitle (some (title number)) = title number := by
    intro number
    exact declaredOr_some (isValue_title number).nonempty
  cases hempty : (config.suffixTags [tag]).isEmpty with
  | true =>
    refine ⟨[], ?_⟩
    intro number
    simp [Configuration.titleOf, metadata, hkept, hempty]
  | false =>
    refine ⟨" (".toList ++ (Text.joinWith ['/'] (config.suffixTags [tag]) ++ [')']), ?_⟩
    intro number
    simp [Configuration.titleOf, metadata, hkept, hempty]

/-- The number of a stub can be told from the title of its case. -/
theorem number_eq_of_titleOf_eq {config : Configuration} {n m : Nat} {tag : Text}
    (h : config.titleOf (metadata n tag) = config.titleOf (metadata m tag)) : n = m := by
  obtain ⟨suffix, htitleOf⟩ := titleOf_metadata config tag
  rw [htitleOf, htitleOf] at h
  exact title_inj (List.append_cancel_right h)

/-! ## A book of stubs -/

/-- What holds of the case of a stub, besides its id: the tag of the first rule
    comes first and leads to its site, and nothing else was declared. -/
structure Fresh (config : Configuration) (c : Case) : Prop where
  tags : [config.firstSiteTag] <+: c.tags
  path : c.path = defaultPath
  browsers : c.browsers =
    (if config.defaultBrowsers = [] then [lastResortBrowser] else config.defaultBrowsers).map
      Platform.resolve
  siteId : c.siteId = config.sites.head?.map SiteRule.siteId

theorem fresh_heading (config : Configuration) (id : Text) (number : Nat) :
    Fresh config { config.heading id (metadata number config.firstSiteTag) with } where
  tags := prefix_allTags config _
  path := rfl
  browsers := by
    show (config.browserNames _).map Platform.resolve = _
    simp only [Configuration.browserNames, metadata, List.isEmpty_iff]
  siteId := siteFor?_firstSiteTag config

variable {config : Configuration} {tag : Text} {ids : List Text}

theorem commits_submission {id : Text} (hid : ¬ Blank id) (stub : Text) :
    Book.Commits (Book.empty config) (submission id stub : Submission ρ)
      { config.heading id (.ofComment stub) with } where
  hasId := hid
  freeId := List.not_mem_nil
  freeTitle := List.not_mem_nil
  completed := rfl

/-- **A book without cases accepts stubs** with different ids: their numbers keep
    the titles apart. -/
theorem accepts_submissions (htag : Setting.IsValue tag) (hids : ids.Nodup)
    (hwritten : ∀ id ∈ ids, ¬ Blank id ∧ OneLine id) :
    (Book.empty config).Accepts (submissions ids tag : List (Submission ρ)) where
  each := by
    intro s hs
    rw [submissions_eq_mapIdx, List.mem_mapIdx] at hs
    obtain ⟨i, hi, rfl⟩ := hs
    exact ⟨_, commits_submission (hwritten _ (List.getElem_mem hi)).1 _⟩
  apart := by
    rw [submissions_eq_mapIdx, List.pairwise_iff_getElem]
    intro i j hi hj hlt
    rw [List.length_mapIdx] at hi hj
    simp only [List.getElem_mapIdx]
    constructor
    · intro hsame
      exact absurd ((List.Nodup.getElem_inj_iff hids).1 hsame) hlt.ne
    · intro hsame
      have hi' := ofComment_text (hwritten _ (List.getElem_mem hi)).2 htag (i + 1)
      have hj' := ofComment_text (hwritten _ (List.getElem_mem hj)).2 htag (j + 1)
      simp only [submission, hi', hj'] at hsame
      have hnumber := number_eq_of_titleOf_eq hsame
      omega

/-- **The stubs for a configuration are committed**, any number of them, in a
    book without cases. -/
theorem submissions_committed (htag : Setting.IsValue config.firstSiteTag) (hids : ids.Nodup)
    (hwritten : ∀ id ∈ ids, ¬ Blank id ∧ OneLine id) :
    let book := ((Book.empty config).submitAll
      (submissions ids config.firstSiteTag : List (Submission ρ))).1
    book.failures = [] ∧ book.cases.map (fun c => c.id) = ids ∧
      ∀ c ∈ book.cases, Fresh config c := by
  intro book
  have hfailures : book.failures = [] :=
    Book.failures_submitAll_eq_iff.2 (accepts_submissions htag hids hwritten)
  have hcases : book.cases = ids.mapIdx fun i id =>
      { config.heading id (.ofComment (text id (i + 1) config.firstSiteTag)) with } := by
    rw [Book.cases_submitAll_of_failures_eq hfailures, submissions_eq_mapIdx,
      List.mapIdx_eq_zipIdx_map, List.mapIdx_eq_zipIdx_map, List.flatMap_map, List.map_eq_flatMap]
    rfl
  refine ⟨hfailures, ?_, ?_⟩
  · rw [hcases]
    apply List.ext_getElem
    · simp
    · intro i hi hi'
      simp [Configuration.heading]
  · intro c hc
    rw [hcases, List.mem_mapIdx] at hc
    obtain ⟨i, hi, rfl⟩ := hc
    rw [ofComment_text (hwritten _ (List.getElem_mem hi)).2 htag]
    exact fresh_heading config _ _

/-- Two stubs with a tag that shows in their titles, and added tags. -/
theorem submissions_committed_suffix :
    let config : Configuration :=
      { defaultBrowsers := ["ie10".toList],
        sites := [⟨"shop".toList, "7".toList⟩, ⟨"none".toList, "9".toList⟩],
        addTags := ["smoke".toList, "shop".toList], tagsAsSuffix := ["shop".toList] }
    let ids := ["a1".toList, "b2".toList]
    let book := ((Book.empty config).submitAll
      (submissions ids config.firstSiteTag : List (Submission Unit))).1
    Setting.IsValue config.firstSiteTag ∧ ids.Nodup ∧ (∀ id ∈ ids, ¬ Blank id ∧ OneLine id) ∧
      book.failures = [] ∧ book.cases.map (fun c => c.id) = ids ∧
        ∀ c ∈ book.cases, Fresh config c :=
  ⟨by decide, by decide, by decide,
    submissions_committed (by decide) (by decide) (by decide)⟩

/-- Where the configuration names no browser, the cases have one it does not
    name. -/
theorem submissions_without_browsers :
    let config : Configuration := { defaultBrowsers := [] }
    let ids := ["a".toList]
    let book := ((Book.empty config).submitAll
      (submissions ids config.firstSiteTag : List (Submission Unit))).1
    Setting.IsValue config.firstSiteTag ∧ ids.Nodup ∧ (∀ id ∈ ids, ¬ Blank id ∧ OneLine id) ∧
      ∃ c ∈ book.cases, c.browsers ≠ config.defaultBrowsers.map Platform.resolve := by
  refine ⟨by decide, by decide, by decide, ?_⟩
  decide +kernel

end Stub

end Casebook
