import Casebook.Proofs.Book.Submit

/-! # Which site a case runs on

    The site of a case that declares none is looked up by its tags: the rules are
    tried in order, and the first one whose tag the case has decides
    (`Configuration.Decides`).

    * The tags count as a set: their order and repetitions do not matter
      (`Configuration.siteFor?_congr`).
    * With more tags the same rule decides or an earlier one does
      (`Configuration.Decides.mono`), and with further rules behind the others it
      is the same rule (`Configuration.Decides.withSites`).
    * The tags that every case gets are not looked at, only those declared
      (`Book.site_inferred`).
-/

namespace Casebook

variable {ρ : Type}

namespace Configuration

variable {config : Configuration} {tags more : List Text} {place : Nat} {rule : SiteRule}

/-! ## The rule that decides -/

/-- The rule at this place decides for the tags: its own tag is one of them, and
    that of no earlier rule is. -/
structure Decides (config : Configuration) (tags : List Text) (place : Nat) (rule : SiteRule) :
    Prop where
  found : config.sites[place]? = some rule
  tagged : rule.tag ∈ tags
  first : ∀ earlier < place, ∀ other, config.sites[earlier]? = some other → other.tag ∉ tags

/-- **A site is found by the rule that decides.** -/
theorem siteFor?_eq_some_iff {id : Text} :
    config.siteFor? tags = some id ↔
      ∃ place rule, config.Decides tags place rule ∧ rule.siteId = id := by
  unfold siteFor?
  rw [Option.map_eq_some_iff]
  constructor
  · intro hright
    obtain ⟨rule, hfind, hid⟩ := hright
    obtain ⟨htag, place, hplace, hrule, hfirst⟩ := List.find?_eq_some_iff_getElem.1 hfind
    refine ⟨place, rule, ⟨?_, by simpa using htag, ?_⟩, hid⟩
    · rw [List.getElem?_eq_getElem hplace, hrule]
    · intro earlier hlt other hother
      obtain ⟨hbound, rfl⟩ := List.getElem?_eq_some_iff.1 hother
      simpa using hfirst earlier hlt
  · intro hright
    obtain ⟨place, rule, hdecides, hid⟩ := hright
    obtain ⟨hplace, hrule⟩ := List.getElem?_eq_some_iff.1 hdecides.found
    refine ⟨rule, List.find?_eq_some_iff_getElem.2 ⟨by simpa using hdecides.tagged, place, hplace,
      hrule, ?_⟩, hid⟩
    intro earlier hlt
    simpa using hdecides.first earlier hlt _ (List.getElem?_eq_getElem (hlt.trans hplace))

/-- A rule decides if there is one whose tag is among the tags: the first such one. -/
theorem exists_decides_le (hplace : config.sites[place]? = some rule) (htag : rule.tag ∈ more) :
    ∃ earlier ≤ place, ∃ other, config.Decides more earlier other := by
  -- By induction on the place: an earlier rule with such a tag comes first.
  induction place using Nat.strong_induction_on generalizing rule with
  | _ place ih =>
    by_cases hfirst : ∀ earlier < place, ∀ other, config.sites[earlier]? = some other →
        other.tag ∉ more
    · exact ⟨place, le_rfl, rule, hplace, htag, hfirst⟩
    · push Not at hfirst
      obtain ⟨earlier, hlt, other, hother, hmem⟩ := hfirst
      obtain ⟨least, hle, found, hdecides⟩ := ih earlier hlt hother hmem
      exact ⟨least, hle.trans hlt.le, found, hdecides⟩

/-- There is a site for the tags exactly if one of them is the tag of a rule. -/
theorem isSome_siteFor?_iff :
    (config.siteFor? tags).isSome = true ↔ ∃ rule ∈ config.sites, rule.tag ∈ tags := by
  unfold siteFor?
  simp

/-! ## Other tags and further rules -/

/-- **Tags count as a set.** -/
theorem siteFor?_congr {others : List Text} (h : ∀ tag, tag ∈ tags ↔ tag ∈ others) :
    config.siteFor? tags = config.siteFor? others := by
  unfold siteFor?
  simp only [List.contains_eq_mem, h]

/-- **With more tags** the rule that decides is the same one or an earlier one. -/
theorem Decides.mono (h : config.Decides tags place rule) (hmore : tags ⊆ more) :
    ∃ earlier ≤ place, ∃ other, config.Decides more earlier other :=
  exists_decides_le h.found (hmore h.tagged)

/-- The configuration with further rules behind the others, one after the other. -/
def withSites (config : Configuration) (rules : List SiteRule) : Configuration :=
  rules.foldl (fun config rule => config.withSite rule.tag rule.siteId) config

theorem sites_withSites (config : Configuration) (rules : List SiteRule) :
    (config.withSites rules).sites = config.sites ++ rules := by
  unfold withSites
  induction rules generalizing config with
  | nil => exact (List.append_nil _).symm
  | cons rule rest ih =>
    rw [List.foldl_cons, ih, withSite, List.append_assoc, List.singleton_append]

/-- **With further rules** the same rule decides, as it comes before them. -/
theorem Decides.withSites (h : config.Decides tags place rule) (rules : List SiteRule) :
    (config.withSites rules).Decides tags place rule := by
  obtain ⟨hplace, -⟩ := List.getElem?_eq_some_iff.1 h.found
  refine ⟨?_, h.tagged, ?_⟩
  · rw [sites_withSites, List.getElem?_append_left hplace, h.found]
  · intro earlier hlt other hother
    rw [sites_withSites, List.getElem?_append_left (hlt.trans hplace)] at hother
    exact h.first earlier hlt other hother

end Configuration

/-! ## Sites of committed cases -/

namespace Book

/-- What is committed for the submission runs on the site that is declared, and if
    none is declared on that of the declared tags. -/
structure OnSite (config : Configuration) (s : Submission ρ) (report : Report ρ) : Prop where
  declared : ∀ c id, report.outcome = .ok c → s.metadata.siteId = some id → c.siteId = some id
  inferred : ∀ c, report.outcome = .ok c → s.metadata.siteId = none →
    c.siteId = config.siteFor? s.metadata.tags

theorem onSite_submit {config : Configuration} (book : Book) (s : Submission ρ)
    (h : book.config = config) : OnSite config s (book.submit s).2 := by
  have hsite : ∀ c, (book.submit s).2.outcome = .ok c →
      c.siteId = s.metadata.siteId.or (config.siteFor? s.metadata.tags) := by
    intro c hc
    have hheading := (commits_of_submit hc).heading_eq
    rw [h] at hheading
    exact congrArg Heading.siteId hheading
  constructor
  · intro c id hc hid
    rw [hsite c hc, hid, Option.some_or]
  · intro c hc hid
    rw [hsite c hc, hid, Option.none_or]

/-- **Sites are inferred by the first rule that applies.**

    * Tags count as a set.
    * The site is that of the rule that decides, and there is one exactly if the
      tag of some rule is among the tags.
    * With more tags an equal or earlier rule decides, and further rules behind the
      others change no site that was found.
    * In every run, a case is committed with its declared site if there is one, and
      otherwise with the site of its declared tags. -/
theorem site_inferred (config : Configuration) :
    (∀ tags others : List Text, (∀ tag, tag ∈ tags ↔ tag ∈ others) →
        config.siteFor? tags = config.siteFor? others) ∧
      (∀ tags id, config.siteFor? tags = some id ↔
        ∃ place rule, config.Decides tags place rule ∧ rule.siteId = id) ∧
      (∀ tags, (config.siteFor? tags).isSome = true ↔ ∃ rule ∈ config.sites, rule.tag ∈ tags) ∧
      (∀ tags more place rule, config.Decides tags place rule → tags ⊆ more →
        ∃ earlier ≤ place, ∃ other, config.Decides more earlier other) ∧
      (∀ tags id rules, config.siteFor? tags = some id →
        (config.withSites rules).siteFor? tags = some id) ∧
      ∀ history : List (Submission ρ),
        List.Forall₂ (OnSite config) history ((empty config).submitAll history).2 := by
  refine ⟨fun tags others h => Configuration.siteFor?_congr h,
    fun tags id => Configuration.siteFor?_eq_some_iff,
    fun tags => Configuration.isSome_siteFor?_iff,
    fun tags more place rule h hmore => h.mono hmore, ?_, ?_⟩
  · intro tags id rules hsite
    obtain ⟨place, rule, hdecides, hid⟩ := Configuration.siteFor?_eq_some_iff.1 hsite
    exact Configuration.siteFor?_eq_some_iff.2 ⟨place, rule, hdecides.withSites rules, hid⟩
  · intro history
    have hconfig : (empty config).config = config := rfl
    exact forall₂_submitAll onSite_submit hconfig history

/-- Rules of which two have one tag, that every case gets as well. -/
def repeatedRules : Configuration where
  sites := [⟨"shop".toList, "1".toList⟩, ⟨"login".toList, "2".toList⟩,
    ⟨"shop".toList, "3".toList⟩]
  addTags := ["shop".toList]

/-- A submission with a tag twice, and one with a site of its own. -/
def taggedSubmissions : List (Submission Empty) :=
  [{ id := "a".toList
     metadata := { title := some "a".toList, tags := ["login".toList, "login".toList] }
     script := .done () },
   { id := "b".toList
     metadata := { title := some "b".toList, tags := ["login".toList], siteId := some [] }
     script := .done () }]

theorem site_inferred_repeated :
    repeatedRules.siteFor? ["login".toList, "new".toList, "login".toList] =
        repeatedRules.siteFor? ["new".toList, "login".toList] ∧
      repeatedRules.Decides ["login".toList] 1 ⟨"login".toList, "2".toList⟩ ∧
      (∃ earlier ≤ 1, ∃ other,
        repeatedRules.Decides ["login".toList, "shop".toList] earlier other) ∧
      (repeatedRules.withSites [⟨"login".toList, "9".toList⟩]).siteFor? ["login".toList] =
        some "2".toList ∧
      List.Forall₂ (OnSite repeatedRules) taggedSubmissions
        ((empty repeatedRules).submitAll taggedSubmissions).2 ∧
      ((empty repeatedRules).submitAll taggedSubmissions).1.cases.map (fun c => c.siteId) =
        [some "2".toList, some []] := by
  obtain ⟨hset, hfound, -, hmore, hrules, hruns⟩ := site_inferred (ρ := Empty) repeatedRules
  have hsite : repeatedRules.siteFor? ["login".toList] = some "2".toList := by decide
  have hdecides : repeatedRules.Decides ["login".toList] 1 ⟨"login".toList, "2".toList⟩ := by
    refine ⟨rfl, by decide, ?_⟩
    intro earlier hlt other hother
    obtain rfl : earlier = 0 := by omega
    obtain rfl := Option.some.inj hother
    decide
  refine ⟨hset _ _ ?_, hdecides, hmore _ _ _ _ hdecides ?_, hrules _ _ _ hsite,
    hruns taggedSubmissions, by decide +kernel⟩
  · intro tag
    simp only [List.mem_cons, List.not_mem_nil, or_false]
    tauto
  · intro tag hmem
    exact List.mem_cons.2 (Or.inl (List.mem_singleton.1 hmem))

end Book

end Casebook
