import Casebook.Proofs.Case.Committed
import Casebook.Proofs.Metadata.Valueless

/-! # Values that count as missing

    What a book does with a submission depends on its metadata through the heading
    alone, and a heading replaces an empty title, an empty path and a list of no
    browsers by defaults (`Book.submit_eq_iff`).

    So a line of a comment that gives a list no value can be dropped, and the
    submission fares as before, with two exceptions (`Book.submit_shortened_iff`).

    * A site without a value is the empty site, and no other is looked up.
    * A list of no browsers under `browser` hides the one under `browsers`.
-/

namespace Casebook

variable {ρ : Type}

/-! ## What a heading shows of metadata -/

namespace Metadata

/-- The metadata give the same heading under every configuration: an empty title or
    path counts as the default, and browsers count by the platforms that they are
    resolved to. -/
structure SameHeading (first second : Metadata) : Prop where
  title : declaredOr defaultTitle second.title = declaredOr defaultTitle first.title
  tags : second.tags = first.tags
  browsers : (second.browsers.getD []).map Platform.resolve =
    (first.browsers.getD []).map Platform.resolve
  path : declaredOr defaultPath second.path = declaredOr defaultPath first.path
  siteId : second.siteId = first.siteId
  disabled : second.disabled = first.disabled

end Metadata

namespace Configuration

variable {first second : Metadata}

/-- A list of no browsers counts as none. -/
theorem browserNames_eq (config : Configuration) (metadata : Metadata) :
    config.browserNames metadata =
      if metadata.browsers.getD [] = [] then config.browserNames {}
      else metadata.browsers.getD [] := by
  obtain ⟨title, tags, browsers, path, siteId, disabled⟩ := metadata
  match browsers with
  | none => rfl
  | some [] => rfl
  | some (name :: names) => rfl

theorem heading_eq_of_sameHeading (h : first.SameHeading second) (config : Configuration)
    (id : Text) : config.heading id second = config.heading id first := by
  have htitle : config.titleOf second = config.titleOf first := by
    unfold titleOf
    rw [h.title, h.tags]
  have hnil : second.browsers.getD [] = [] ↔ first.browsers.getD [] = [] := by
    rw [← List.map_eq_nil_iff, h.browsers, List.map_eq_nil_iff]
  have hbrowsers : (config.browserNames second).map Platform.resolve =
      (config.browserNames first).map Platform.resolve := by
    rw [browserNames_eq, browserNames_eq config first]
    simp only [hnil]
    split
    · rfl
    · exact h.browsers
  unfold heading
  rw [htitle, hbrowsers, h.siteId, h.tags, h.path, h.disabled]

/-- Browsers that are declared are told from those of the configuration. -/
theorem browsers_eq_nil_of_heading_eq
    (h : ∀ config : Configuration, config.heading [] second = config.heading [] first)
    (hfirst : first.browsers.getD [] = []) : second.browsers.getD [] = [] := by
  by_contra hsecond
  -- Let a configuration have each of the browsers twice.
  let config : Configuration :=
    { defaultBrowsers := second.browsers.getD [] ++ second.browsers.getD [] }
  have hnames : (config.browserNames second).map Platform.resolve =
      (config.browserNames first).map Platform.resolve := congrArg Heading.browsers (h config)
  have hdefault : config.browserNames {} = config.defaultBrowsers := by
    simp [browserNames, config, hsecond]
  rw [browserNames_eq, if_neg hsecond, browserNames_eq, if_pos hfirst, hdefault] at hnames
  have hlength := congrArg List.length hnames
  rw [List.length_map, List.length_map, List.length_append] at hlength
  have hpos := List.length_pos_iff.2 hsecond
  omega

/-- **What a heading shows** of metadata. -/
theorem heading_eq_iff :
    (∀ (config : Configuration) id, config.heading id second = config.heading id first) ↔
      first.SameHeading second := by
  refine ⟨?_, heading_eq_of_sameHeading⟩
  intro h
  -- A configuration that says nothing shows all but the browsers as declared.
  have hplain := h {} []
  have hsite : second.siteId.or none = first.siteId.or none := congrArg Heading.siteId hplain
  rw [Option.or_none, Option.or_none] at hsite
  have htags : second.tags = first.tags := congrArg Heading.tags hplain
  have hnames : (browserNames {} second).map Platform.resolve =
      (browserNames {} first).map Platform.resolve := congrArg Heading.browsers hplain
  have htitle : titleOf {} second = titleOf {} first := congrArg Heading.title hplain
  have hforward := browsers_eq_nil_of_heading_eq fun config => h config []
  have hback := browsers_eq_nil_of_heading_eq fun config => (h config []).symm
  refine ⟨?_, htags, ?_, congrArg Heading.path hplain, hsite, congrArg Heading.disabled hplain⟩
  · simpa [titleOf, suffixTags] using htitle
  · rw [browserNames_eq, browserNames_eq {} first] at hnames
    by_cases hfirst : first.browsers.getD [] = []
    · rw [hfirst, hforward hfirst]
    · rwa [if_neg hfirst, if_neg (mt hback hfirst)] at hnames

end Configuration

/-! ## What a book sees of metadata -/

namespace Book

/-- A submission with these metadata. -/
def submissionOf (id : Text) (script : Script ρ Unit) (metadata : Metadata) : Submission ρ :=
  { id, metadata, script }

/-- **Submissions fare alike** in every book, whatever their id and their script,
    exactly if their metadata give the same heading. -/
theorem submit_eq_iff {first second : Metadata} :
    (∀ (book : Book) id (script : Script ρ Unit),
        book.submit (submissionOf id script second) = book.submit (submissionOf id script first)) ↔
      first.SameHeading second := by
  rw [← Configuration.heading_eq_iff]
  constructor
  · -- A case that is committed shows its heading.
    intro h config id
    have hcommits : ∀ metadata, Commits (empty config)
        (submissionOf "a".toList (.done ()) metadata : Submission ρ)
        { config.heading "a".toList metadata with } := by
      intro metadata
      have hid : ¬ Text.Blank "a".toList := by decide
      exact ⟨hid, List.not_mem_nil, List.not_mem_nil, rfl⟩
    have hsecond := commits_iff.1 (hcommits second)
    rw [h (empty config), commits_iff.1 (hcommits first)] at hsecond
    have hheading : config.heading "a".toList second = config.heading "a".toList first :=
      congrArg Case.toHeading (Except.ok.inj hsecond).symm
    exact congrArg (fun heading => { heading with id }) hheading
  · intro h book id script
    unfold submit examine submissionOf Submission.complete
    simp only [h]

end Book

/-! ## Comments without bare lines -/

namespace Metadata

variable {source other : Text} {drops : Text → Bool}

/-- A list that is joined to a text: without values it is no list for the default. -/
theorem Shortened.declaredOr_eq (h : Shortened source other drops) {name : Text}
    (hname : name ∈ listNames) (default separator : Text) :
    declaredOr default (((Settings.ofComment other).list? name).map (Text.joinWith separator)) =
      declaredOr default
        (((Settings.ofComment source).list? name).map (Text.joinWith separator)) := by
  rcases h.list?_cases hname with ⟨-, hsource, hother⟩ | ⟨-, hsame⟩
  · rw [hsource, hother]
    rfl
  · rw [hsame]

/-- The browsers of a comment, where no list and a list of none are the same. -/
theorem getD_browsers (source : Text) :
    (ofComment source).browsers.getD [] =
      (((Settings.ofComment source).list? "browser".toList).or
        ((Settings.ofComment source).list? "browsers".toList)).getD [] := by
  unfold ofComment ofSettings
  dsimp only
  match ((Settings.ofComment source).list? "browser".toList).or
      ((Settings.ofComment source).list? "browsers".toList) with
  | none => rfl
  | some [] => rfl
  | some (name :: names) => rfl

/-- **Browsers stay**, unless a list of none is dropped that hid another list. -/
theorem Shortened.browsers_iff (h : Shortened source other drops) :
    ((ofComment other).browsers.getD []).map Platform.resolve =
        ((ofComment source).browsers.getD []).map Platform.resolve ↔
      (DropsEmpty source drops "browser".toList → ∀ line ∈ Text.lines other, ∀ values,
        Setting.Makes line "browsers".toList (.list values) → values = []) := by
  have hbrowser : "browser".toList ∈ listNames := by decide
  have hbrowsers : "browsers".toList ∈ listNames := by decide
  rw [← h.getD_list?_eq_nil_iff hbrowsers, getD_browsers, getD_browsers]
  rcases h.list?_cases hbrowser with ⟨hempty, hsource, hother⟩ | ⟨hempty, hsame⟩
  · rw [hsource, hother, Option.none_or, Option.some_or, Option.getD_some, List.map_nil,
      List.map_eq_nil_iff]
    exact ⟨fun hnil _ => hnil, fun hnil => hnil hempty⟩
  · refine iff_of_true ?_ fun hdropped => absurd hdropped hempty
    -- The list under the other name matters only if there is none under this one.
    rw [hsame]
    cases (Settings.ofComment source).list? "browser".toList with
    | some names => rfl
    | none =>
      rcases h.list?_cases hbrowsers with ⟨-, hsource, hother⟩ | ⟨-, hsame⟩
      · rw [hsource, hother]
        rfl
      · rw [hsame]

/-- **A shortened comment gives the same heading**, unless the site was declared to be
    empty, or browsers show that were hidden. -/
theorem Shortened.sameHeading_iff (h : Shortened source other drops) :
    (ofComment source).SameHeading (ofComment other) ↔
      ¬ DropsEmpty source drops "site_id".toList ∧
        (DropsEmpty source drops "browser".toList → ∀ line ∈ Text.lines other, ∀ values,
          Setting.Makes line "browsers".toList (.list values) → values = []) := by
  have htitle := h.declaredOr_eq (by decide : "title".toList ∈ listNames) defaultTitle ", ".toList
  have hpath := h.declaredOr_eq (by decide : "path".toList ∈ listNames) defaultPath [',']
  have htags : (ofComment other).tags = (ofComment source).tags := by
    show ((Settings.ofComment other).list? "tags".toList).getD [] =
      ((Settings.ofComment source).list? "tags".toList).getD []
    rcases h.list?_cases (by decide : "tags".toList ∈ listNames) with
      ⟨-, hsource, hother⟩ | ⟨-, hsame⟩
    · rw [hsource, hother]
      rfl
    · rw [hsame]
  have hsite : (ofComment other).siteId = (ofComment source).siteId ↔
      ¬ DropsEmpty source drops "site_id".toList := by
    show ((Settings.ofComment other).list? "site_id".toList).map _ =
      ((Settings.ofComment source).list? "site_id".toList).map _ ↔ _
    rcases h.list?_cases (by decide : "site_id".toList ∈ listNames) with
      ⟨hempty, hsource, hother⟩ | ⟨hempty, hsame⟩
    · rw [hsource, hother]
      refine iff_of_false ?_ (not_not_intro hempty)
      intro hnone
      cases hnone
    · rw [hsame]
      exact iff_of_true rfl hempty
  have hdisabled : (ofComment other).disabled = (ofComment source).disabled := by
    show ((Settings.ofComment other).get? "disabled".toList).isSome =
      ((Settings.ofComment source).get? "disabled".toList).isSome
    rw [h.get?_eq (by decide)]
  rw [← hsite, ← h.browsers_iff]
  constructor
  · intro hsame
    exact ⟨hsame.siteId, hsame.browsers⟩
  · intro hright
    obtain ⟨hsiteId, hbrowsers⟩ := hright
    exact ⟨htitle, htags, hbrowsers, hpath, hsiteId, hdisabled⟩

end Metadata

namespace Book

open Metadata (Shortened DropsEmpty)

/-- **Lines without a value can be dropped** from a comment without a difference to
    any submission, with two exceptions: no line may be dropped that gives the site
    an empty value, and if one is dropped that gives `browser` no browsers, then
    `browsers` must have none either. -/
theorem submit_shortened_iff {source other : Text} {drops : Text → Bool}
    (h : Shortened source other drops) :
    (∀ (book : Book) id (script : Script ρ Unit),
        book.submit (submissionOf id script (.ofComment other)) =
          book.submit (submissionOf id script (.ofComment source))) ↔
      ¬ DropsEmpty source drops "site_id".toList ∧
        (DropsEmpty source drops "browser".toList → ∀ line ∈ Text.lines other, ∀ values,
          Setting.Makes line "browsers".toList (.list values) → values = []) :=
  submit_eq_iff.trans h.sameHeading_iff

/-- A comment with many lines that give a list no value. -/
def bareComment : Text :=
  Text.joinWith ['\n'] ["// title".toList, "// tags: ,\t,".toList, "// site_id\r".toList,
    "open();".toList, "// browser:".toList, "// browsers: ,".toList, "//path: ".toList,
    "// disabled".toList]

theorem submit_shortened_iff_bare :
    let other := "open();\n// browsers: ,\n// disabled".toList
    let drops (line : Text) : Bool := line ∉ Text.lines other
    Shortened bareComment other drops ∧
      ∀ (book : Book) id (script : Script Empty Unit),
        book.submit (submissionOf id script (.ofComment other)) =
          book.submit (submissionOf id script (.ofComment bareComment)) := by
  intro other drops
  have hshortened : Shortened bareComment other drops :=
    ⟨by decide +kernel, by decide +kernel, by decide +kernel⟩
  have hsite : ¬ DropsEmpty bareComment drops "site_id".toList := by
    unfold DropsEmpty
    decide +kernel
  have hbrowsers : ((Settings.ofComment other).list? "browsers".toList).getD [] = [] := by
    decide +kernel
  refine ⟨hshortened, (submit_shortened_iff hshortened).2 ⟨hsite, ?_⟩⟩
  intro _
  exact (hshortened.getD_list?_eq_nil_iff (by decide)).1 hbrowsers

/-- Cases with the tag run on the site. -/
def loginSite : Configuration :=
  Configuration.withSite {} "login".toList "7002".toList

/-- A comment with an empty site and an empty list under `browser`. -/
def emptySiteComment : Text :=
  "// tags: login\n// site_id:\n// browser: ,\n// browsers: ie9".toList

/-- Dropped lines that made a difference: the site is looked up without the one, and the
    browsers show without the other. -/
theorem submit_shortened_ne :
    let other := "// tags: login\n// browsers: ie9".toList
    let drops (line : Text) : Bool := line ∉ Text.lines other
    let submit (source : Text) := ((empty loginSite).submit
      (submissionOf "a".toList (.done ()) (.ofComment source) : Submission Empty)).1
    let shown (source : Text) := (submit source).cases.map fun c => (c.siteId, c.browsers)
    Shortened emptySiteComment other drops ∧
      shown emptySiteComment = [(some [], ["chrome_1440_900".toList])] ∧
      shown other = [(some "7002".toList, ["ie9_1440_900".toList])] := by
  intro other drops submit shown
  exact ⟨⟨by decide +kernel, by decide +kernel, by decide +kernel⟩, by decide +kernel,
    by decide +kernel⟩

end Book

end Casebook
