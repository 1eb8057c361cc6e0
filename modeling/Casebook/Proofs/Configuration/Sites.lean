import Casebook.Configuration.Load
import Casebook.Proofs.Configuration.Document
import Casebook.Proofs.Json.Exact

/-! # No site is unreachable

    A site rule is of use only if it is the first one with its tag.  So the tags
    of a configuration that is read are all different, however the document is
    written, and every rule is found by its tag; and a document that gives one
    tag two sites, in whatever spelling, is refused (`Configuration.ofJson_sites`).

    The first is an invariant of the loop that reads the rules
    (`Configuration.nodup_readRules`).  For the second the document is cut at its
    members: as each of them is read to where it ends, the loop comes to both
    entries of the tag (`Configuration.apart_readRules`).
-/

namespace Casebook

open Json

namespace Configuration

/-! ## One step of each reader -/

variable {fuel : Nat} {first : Bool} {text behind : Text}

theorem refuse_ne_ok {α : Type} {reason rest : Text} {a : α} : refuse reason rest ≠ .ok a := by
  intro h
  unfold refuse at h
  split at h
  · cases h
  · split at h <;> cases h

/-- Rules that are read end there, or one more is read, of a new tag. -/
theorem readRules_cases {before rules : List SiteRule}
    (h : readRules (fuel + 1) first before text = .ok (rules, behind)) :
    (nextEntry first text = .ok (false, behind) ∧ rules = before) ∨
      ∃ opened tag named valued siteId unread, nextEntry first text = .ok (true, opened) ∧
        readString opened = .ok (tag, named) ∧ colon named = .ok valued ∧
        readSite valued = .ok (siteId, unread) ∧ tag ∉ before.map SiteRule.tag ∧
        readRules fuel false (before ++ [⟨tag, siteId⟩]) unread = .ok (rules, behind) := by
  obtain ⟨⟨more, opened⟩, hnext, h⟩ := bind_eq_ok_iff.1 h
  cases more with
  | false =>
    cases h
    exact Or.inl ⟨hnext, rfl⟩
  | true =>
    obtain ⟨⟨tag, named⟩, hname, h⟩ := bind_eq_ok_iff.1 h
    obtain ⟨valued, hcolon, h⟩ := bind_eq_ok_iff.1 h
    obtain ⟨⟨siteId, unread⟩, hsite, h⟩ := bind_eq_ok_iff.1 h
    dsimp only at h
    split at h
    · exact absurd h refuse_ne_ok
    next hnew =>
      have htag : tag ∉ before.map SiteRule.tag := mt List.contains_iff_mem.2 hnew
      exact Or.inr ⟨opened, tag, named, valued, siteId, unread, hnext, hname, hcolon, hsite, htag,
        h⟩

/-- Fields of a site that are read end there, or the id is read, or a field is
    skipped. -/
theorem readSiteFields_cases {siteId? read? : Option Text}
    (h : readSiteFields (fuel + 1) first siteId? text = .ok (read?, behind)) :
    nextEntry first text = .ok (false, behind) ∨
      ∃ opened key named valued unread next?, nextEntry first text = .ok (true, opened) ∧
        readString opened = .ok (key, named) ∧ colon named = .ok valued ∧
        ((∃ siteId, readText valued = .ok (siteId, unread)) ∨ skipValue valued = .ok unread) ∧
        readSiteFields fuel false next? unread = .ok (read?, behind) := by
  obtain ⟨⟨more, opened⟩, hnext, h⟩ := bind_eq_ok_iff.1 h
  cases more with
  | false =>
    cases h
    exact Or.inl hnext
  | true =>
    obtain ⟨⟨key, named⟩, hname, h⟩ := bind_eq_ok_iff.1 h
    dsimp only at h
    split at h
    · split at h
      · cases h
      · obtain ⟨valued, hcolon, h⟩ := bind_eq_ok_iff.1 h
        obtain ⟨⟨siteId, unread⟩, hread, h⟩ := bind_eq_ok_iff.1 h
        exact Or.inr ⟨opened, key, named, valued, unread, some siteId, hnext, hname, hcolon,
          Or.inl ⟨siteId, hread⟩, h⟩
    · obtain ⟨valued, hcolon, h⟩ := bind_eq_ok_iff.1 h
      obtain ⟨unread, hskip, h⟩ := bind_eq_ok_iff.1 h
      exact Or.inr ⟨opened, key, named, valued, unread, siteId?, hnext, hname, hcolon,
        Or.inr hskip, h⟩

/-- Named fields that are read end there, or one more is read, or one of another
    name is skipped. -/
theorem readNamed_cases {before given : Given}
    (h : readNamed (fuel + 1) first before text = .ok (given, behind)) :
    (nextEntry first text = .ok (false, behind) ∧ given = before) ∨
      ∃ opened key named valued unread next, nextEntry first text = .ok (true, opened) ∧
        readString opened = .ok (key, named) ∧ colon named = .ok valued ∧
        ((∃ field, Field.ofName? key = some field ∧
            readField field before valued = .ok (next, unread)) ∨
          Field.ofName? key = none ∧ skipValue valued = .ok unread ∧ next = before) ∧
        readNamed fuel false next unread = .ok (given, behind) := by
  obtain ⟨⟨more, opened⟩, hnext, h⟩ := bind_eq_ok_iff.1 h
  cases more with
  | false =>
    cases h
    exact Or.inl ⟨hnext, rfl⟩
  | true =>
    obtain ⟨⟨key, named⟩, hname, h⟩ := bind_eq_ok_iff.1 h
    dsimp only at h
    split at h
    next field hfield =>
      split at h
      · cases h
      · obtain ⟨valued, hcolon, h⟩ := bind_eq_ok_iff.1 h
        obtain ⟨⟨next, unread⟩, hread, h⟩ := bind_eq_ok_iff.1 h
        exact Or.inr ⟨opened, key, named, valued, unread, next, hnext, hname, hcolon,
          Or.inl ⟨field, hfield, hread⟩, h⟩
    next hfield =>
      obtain ⟨valued, hcolon, h⟩ := bind_eq_ok_iff.1 h
      obtain ⟨unread, hskip, h⟩ := bind_eq_ok_iff.1 h
      exact Or.inr ⟨opened, key, named, valued, unread, before, hnext, hname, hcolon,
        Or.inr ⟨hfield, hskip, rfl⟩, h⟩

/-- Elements that are read end there, or one more field is read. -/
theorem readPositional_cases {field : Field} {fields : List Field} {before given : Given}
    (h : readPositional (field :: fields) first before text = .ok (given, behind)) :
    (nextElement first text = .ok (false, behind) ∧ given = before) ∨
      ∃ opened next unread, nextElement first text = .ok (true, opened) ∧
        readField field before opened = .ok (next, unread) ∧
        readPositional fields false next unread = .ok (given, behind) := by
  obtain ⟨⟨more, opened⟩, hnext, h⟩ := bind_eq_ok_iff.1 h
  cases more with
  | false =>
    cases h
    exact Or.inl ⟨hnext, rfl⟩
  | true =>
    obtain ⟨⟨next, unread⟩, hread, h⟩ := bind_eq_ok_iff.1 h
    exact Or.inr ⟨opened, next, unread, hnext, hread, h⟩

/-! ## The tags of rules that are read -/

/-- **Rules have different tags** when they are read behind such rules. -/
theorem nodup_readRules {before rules : List SiteRule}
    (h : readRules fuel first before text = .ok (rules, behind))
    (hbefore : (before.map SiteRule.tag).Nodup) : (rules.map SiteRule.tag).Nodup := by
  induction fuel generalizing first before text with
  | zero =>
    cases h
    exact hbefore
  | succ fuel ih =>
    rcases readRules_cases h with ⟨-, rfl⟩ | ⟨_, tag, _, _, siteId, _, -, -, -, -, htag, hlater⟩
    · exact hbefore
    · refine ih hlater ?_
      rw [List.map_append, List.map_singleton, ← List.concat_eq_append]
      exact hbefore.concat htag

theorem nodup_readSites {rules : List SiteRule} (h : readSites text = .ok (rules, behind)) :
    (rules.map SiteRule.tag).Nodup := by
  unfold readSites at h
  split at h
  · cases h
  · split at h
    · obtain ⟨_, hrules, -⟩ := exists_of_between h
      exact nodup_readRules hrules List.nodup_nil
    · exact absurd h wrongType_ne_ok

/-- The rules that are given have different tags. -/
def Given.Distinct (given : Given) : Prop :=
  ∀ rules, given.sites = some rules → (rules.map SiteRule.tag).Nodup

theorem distinct_readField {field : Field} {before given : Given}
    (h : readField field before text = .ok (given, behind)) (hbefore : before.Distinct) :
    given.Distinct := by
  cases field with
  | sites =>
    obtain ⟨⟨rules, unread⟩, hrules, h⟩ := bind_eq_ok_iff.1 h
    cases h
    intro rules' heq
    cases heq
    exact nodup_readSites hrules
  | _ =>
    obtain ⟨⟨read, unread⟩, -, h⟩ := bind_eq_ok_iff.1 h
    cases h
    exact hbefore

theorem distinct_readNamed {before given : Given}
    (h : readNamed fuel first before text = .ok (given, behind)) (hbefore : before.Distinct) :
    given.Distinct := by
  induction fuel generalizing first before text with
  | zero =>
    cases h
    exact hbefore
  | succ fuel ih =>
    rcases readNamed_cases h with ⟨-, rfl⟩ | ⟨_, _, _, _, _, next, -, -, -, hfield, hlater⟩
    · exact hbefore
    · rcases hfield with ⟨field, -, hread⟩ | ⟨-, -, rfl⟩
      · exact ih hlater (distinct_readField hread hbefore)
      · exact ih hlater hbefore

theorem distinct_readPositional {fields : List Field} {before given : Given}
    (h : readPositional fields first before text = .ok (given, behind))
    (hbefore : before.Distinct) : given.Distinct := by
  induction fields generalizing first before text with
  | nil =>
    cases h
    exact hbefore
  | cons field fields ih =>
    rcases readPositional_cases h with ⟨-, rfl⟩ | ⟨_, next, _, -, hread, hlater⟩
    · exact hbefore
    · exact ih hlater (distinct_readField hread hbefore)

theorem nodup_ofGiven {given : Given} (h : given.Distinct) :
    ((ofGiven given).sites.map SiteRule.tag).Nodup := by
  unfold ofGiven
  dsimp only
  cases hsites : given.sites with
  | none => exact List.nodup_nil
  | some rules => exact h rules hsites

theorem nodup_read {config : Configuration} (h : read text = .ok (config, behind)) :
    (config.sites.map SiteRule.tag).Nodup := by
  have hnone : Given.Distinct {} := by
    intro rules hrules
    cases hrules
  unfold read at h
  split at h
  · cases h
  · split at h
    · obtain ⟨⟨given, unread⟩, hread, heq⟩ := map_eq_ok_iff.1 h
      cases heq
      obtain ⟨_, hnamed, -⟩ := exists_of_between hread
      exact nodup_ofGiven (distinct_readNamed hnamed hnone)
    · split at h
      · obtain ⟨⟨given, unread⟩, hread, heq⟩ := map_eq_ok_iff.1 h
        cases heq
        obtain ⟨_, hplaced, -⟩ := exists_of_between hread
        exact nodup_ofGiven (distinct_readPositional hplaced hnone)
      · exact absurd h wrongType_ne_ok

theorem exists_of_readDocument {α : Type} {value : Reader α} {document : Text} {a : α}
    (h : readDocument value document = .ok a) : ∃ rest, value document = .ok (a, rest) := by
  unfold readDocument at h
  cases hvalue : value document with
  | error stop =>
    rw [hvalue] at h
    cases h
  | ok read =>
    obtain ⟨a', rest⟩ := read
    rw [hvalue] at h
    dsimp only [bind, Except.bind] at h
    split at h
    · cases h
      exact ⟨rest, rfl⟩
    · cases h

/-- A rule is found by its tag when no other rule has it. -/
theorem siteFor?_tag {config : Configuration} (h : (config.sites.map SiteRule.tag).Nodup)
    {rule : SiteRule} (hmem : rule ∈ config.sites) :
    config.siteFor? [rule.tag] = some rule.siteId := by
  unfold siteFor?
  cases hfind : config.sites.find? fun other => [rule.tag].contains other.tag with
  | none =>
    rw [List.find?_eq_none] at hfind
    exact absurd (by simp) (hfind rule hmem)
  | some found =>
    have htag : found.tag = rule.tag := by simpa using List.find?_some hfind
    have hsame : found = rule :=
      List.inj_on_of_nodup_map h (List.mem_of_find?_eq_some hfind) hmem htag
    rw [hsame]
    rfl

/-! ## Sites end where they end -/

theorem exact_readSiteFields {entries : List RawEntry} {inner rest : Text}
    {siteId? read? : Option Text} (h : Members AnyEntry first entries inner)
    (hfuel : entries.length < fuel)
    (hread : readSiteFields fuel first siteId? (inner ++ '\x7d' :: rest) = .ok (read?, behind)) :
    behind = '\x7d' :: rest := by
  induction h generalizing fuel siteId? with
  | @nil first _ hblanks =>
    obtain ⟨fuel, rfl⟩ := Nat.exists_eq_add_one_of_ne_zero (Nat.ne_zero_of_lt hfuel)
    have hclosing := nextEntry_closing hblanks first rest
    rcases readSiteFields_cases hread with hnext | ⟨_, _, _, _, _, _, hnext, -⟩
    · rw [hclosing] at hnext
      cases hnext
      rfl
    · rw [hclosing] at hnext
      cases hnext
  | @cons first lead written later entry entries hlead hentry hrest ih =>
    obtain ⟨fuel, rfl⟩ := Nat.exists_eq_add_one_of_ne_zero (Nat.ne_zero_of_lt hfuel)
    rw [List.append_assoc, List.append_assoc] at hread
    rcases readSiteFields_cases hread with
      hnext | ⟨_, _, _, _, _, _, hnext, hname, hcolon, hvalue, hlater⟩
    · cases more_of_nextEntry hlead hentry hnext
    · obtain ⟨⟨blanks, hblanks, rfl⟩, -⟩ := valued_of_anyEntry hlead hentry hnext hname hcolon
      have hends : Ends (later ++ '\x7d' :: rest) := hrest.ends .object rest
      -- The value is read or skipped, and both end where it does.
      rcases hvalue with ⟨siteId, htext⟩ | hskip
      · rw [exact_readText hblanks hentry.2.1 htext] at hlater
        exact ih (Nat.lt_of_succ_lt_succ hfuel) hlater
      · rw [skipValue_value hblanks hentry.2.1 hends] at hskip
        rw [← Except.ok.inj hskip] at hlater
        exact ih (Nat.lt_of_succ_lt_succ hfuel) hlater

theorem exact_readSiteObject {entries : List RawEntry} {inner rest siteId : Text}
    (h : Members AnyEntry true entries inner)
    (hread : readSiteObject (inner ++ '\x7d' :: rest) = .ok (siteId, behind)) :
    behind = '\x7d' :: rest := by
  obtain ⟨⟨siteId?, unread⟩, hfields, hread⟩ := bind_eq_ok_iff.1 hread
  have hexact := exact_readSiteFields h (h.length_lt anyEntry_ne_nil _) hfields
  cases siteId? with
  | none => cases hread
  | some siteId =>
    cases hread
    exact hexact

/-- One element of a site is read, so it must be the only one. -/
theorem exact_readSiteArray {values : List Text} {inner rest unread siteId : Text}
    (h : Members AnyElement true values inner)
    (hread : between .list readSiteArray (inner ++ ']' :: rest) = .ok (siteId, unread)) :
    unread = rest := by
  obtain ⟨behind, harray, hclose⟩ := exists_of_between hread
  obtain ⟨⟨more, opened⟩, hnext, harray⟩ := bind_eq_ok_iff.1 harray
  cases h with
  | nil hblanks =>
    rw [nextElement_closing hblanks] at hnext
    cases hnext
    cases harray
  | cons hlead hvalue hrest =>
    obtain ⟨hvalue, rfl⟩ := hvalue
    rw [List.append_assoc, List.append_assoc, nextElement_value hlead hvalue] at hnext
    cases hnext
    rw [exact_readText (List.forall_mem_nil _) hvalue harray] at hclose
    cases hrest with
    | nil hblanks =>
      have hend := close_append hblanks .list rest
      exact (Except.ok.inj (hend.symm.trans hclose)).symm
    | cons hlead _ _ =>
      -- A second element stands where the array has to be closed.
      rw [List.append_assoc, List.append_assoc] at hclose
      exact absurd hclose (close_lead_ne_ok hlead .list)

theorem exact_readSite : Exact readSite := by
  intro blanks value rest unread siteId hblanks h hread
  obtain ⟨c, more, rfl, hstart⟩ := h.start
  rw [readSite, List.cons_append, skipSpace_append_cons hblanks hstart.ne.1] at hread
  dsimp only at hread
  split at hread
  next hbracket =>
    subst hbracket
    obtain ⟨inner, hinner, rfl⟩ := h.bracketed
    obtain ⟨entries, hentries⟩ := hinner.entries
    rw [List.append_assoc] at hread
    exact unread_of_between (exact_readSiteObject hentries) hread
  · split at hread
    next hbracket =>
      subst hbracket
      obtain ⟨inner, hinner, rfl⟩ := h.bracketed
      obtain ⟨values, hvalues⟩ := hinner.elements
      rw [List.append_assoc] at hread
      exact exact_readSiteArray hvalues hread
    · exact absurd hread wrongType_ne_ok

/-! ## Tags that are spelt twice -/

/-- No text is spelt by the keys of both entries. -/
def KeysApart (entry other : RawEntry) : Prop :=
  ∀ key, Spells key entry.key → ¬ Spells key other.key

/-- **The rules are read entry by entry**: the keys of the entries spell different
    tags, and none of the rules that were read before has one of them. -/
theorem apart_readRules {entries : List RawEntry} {inner rest : Text} {before rules : List SiteRule}
    (h : Members AnyEntry first entries inner) (hfuel : entries.length < fuel)
    (hread : readRules fuel first before (inner ++ '\x7d' :: rest) = .ok (rules, behind)) :
    behind = '\x7d' :: rest ∧ entries.Pairwise KeysApart ∧
      ∀ entry ∈ entries, ∀ tag, Spells tag entry.key → tag ∉ before.map SiteRule.tag := by
  -- By induction on the entries.  Each leaves a rule with its tag, and what is known
  -- of the later ones is said of all rules before them.
  induction h generalizing fuel before with
  | @nil first _ hblanks =>
    obtain ⟨fuel, rfl⟩ := Nat.exists_eq_add_one_of_ne_zero (Nat.ne_zero_of_lt hfuel)
    have hclosing := nextEntry_closing hblanks first rest
    rcases readRules_cases hread with ⟨hnext, -⟩ | ⟨_, _, _, _, _, _, hnext, -⟩
    · rw [hclosing] at hnext
      cases hnext
      exact ⟨rfl, List.Pairwise.nil, List.forall_mem_nil _⟩
    · rw [hclosing] at hnext
      cases hnext
  | @cons first lead written later entry entries hlead hentry hrest ih =>
    obtain ⟨fuel, rfl⟩ := Nat.exists_eq_add_one_of_ne_zero (Nat.ne_zero_of_lt hfuel)
    rw [List.append_assoc, List.append_assoc] at hread
    rcases readRules_cases hread with
      ⟨hnext, -⟩ | ⟨_, tag, _, _, siteId, _, hnext, hname, hcolon, hsite, htag, hlater⟩
    · cases more_of_nextEntry hlead hentry hnext
    · obtain ⟨⟨blanks, hblanks, rfl⟩, hkey⟩ := valued_of_anyEntry hlead hentry hnext hname hcolon
      rw [exact_readSite hblanks hentry.2.1 hsite] at hlater
      obtain ⟨hbehind, hpairs, hnew⟩ := ih (Nat.lt_of_succ_lt_succ hfuel) hlater
      refine ⟨hbehind, List.Pairwise.cons ?_ hpairs, List.forall_mem_cons.2 ⟨?_, ?_⟩⟩
      · -- The tag is that of a rule when the later entries are read.
        intro other hother key hspelt hspelt'
        have hmem := hnew other hother key hspelt'
        rw [← hkey key hspelt] at hmem
        simp at hmem
      · intro key hspelt
        rwa [← hkey key hspelt]
      · intro other hother key hspelt hmem
        apply hnew other hother key hspelt
        rw [List.map_append]
        exact List.mem_append_left _ hmem

theorem apart_readSites {entries : List RawEntry} {blanks sites rest unread : Text}
    {rules : List SiteRule} (hblanks : Space blanks) (h : Enclosed .object AnyEntry entries sites)
    (hread : readSites (blanks ++ (sites ++ rest)) = .ok (rules, unread)) :
    unread = rest ∧ entries.Pairwise KeysApart := by
  obtain ⟨inner, hentries, hskip⟩ := exists_of_enclosed hblanks h rest
  have hfuel := hentries.length_lt anyEntry_ne_nil ('\x7d' :: rest)
  rw [readSites, hskip] at hread
  obtain ⟨behind, hrules, -⟩ := exists_of_between hread
  refine ⟨unread_of_between ?_ hread, (apart_readRules hentries hfuel hrules).2.1⟩
  intro rules behind hrules
  exact (apart_readRules hentries hfuel hrules).1

theorem exact_readSites : Exact readSites := by
  intro blanks value rest unread rules hblanks h hread
  obtain ⟨c, more, rfl, hstart⟩ := h.start
  have hskip := skipSpace_append_cons hblanks hstart.ne.1 (more ++ rest)
  by_cases hbracket : c = Bracket.object.opening
  · subst hbracket
    obtain ⟨inner, hinner, rfl⟩ := h.bracketed
    obtain ⟨entries, hentries⟩ := hinner.entries
    exact (apart_readSites hblanks ⟨inner, hentries, rfl⟩ hread).1
  · rw [readSites, List.cons_append, hskip] at hread
    dsimp only at hread
    rw [if_neg hbracket] at hread
    exact absurd hread wrongType_ne_ok

/-! ## Fields of a document -/

theorem exact_readField (field : Field) (given : Given) : Exact (readField field given) := by
  intro blanks value rest unread later hblanks h hread
  cases field with
  | sites =>
    obtain ⟨⟨rules, behind⟩, hrules, hread⟩ := bind_eq_ok_iff.1 hread
    cases hread
    exact exact_readSites hblanks h hrules
  | _ =>
    obtain ⟨⟨texts, behind⟩, hlist, hread⟩ := bind_eq_ok_iff.1 hread
    cases hread
    exact exact_readList exact_readText hblanks h hlist

/-- **Named fields are read entry by entry**: what an entry with the name of a
    field holds is read as that field. -/
theorem exists_of_readNamed {entries : List RawEntry} {inner rest : Text} {before given : Given}
    (h : Members AnyEntry first entries inner) (hfuel : entries.length < fuel)
    (hread : readNamed fuel first before (inner ++ '\x7d' :: rest) = .ok (given, behind))
    {entry : RawEntry} (hmem : entry ∈ entries) {field : Field}
    (hname : Spells field.name entry.key) :
    ∃ blanks later earlier next unread, Space blanks ∧
      readField field earlier (blanks ++ (entry.value ++ later)) = .ok (next, unread) := by
  induction h generalizing fuel before with
  | nil _ => cases hmem
  | @cons first lead written later other entries hlead hentry hrest ih =>
    obtain ⟨fuel, rfl⟩ := Nat.exists_eq_add_one_of_ne_zero (Nat.ne_zero_of_lt hfuel)
    rw [List.append_assoc, List.append_assoc] at hread
    rcases readNamed_cases hread with
      ⟨hnext, -⟩ | ⟨_, key, _, _, _, next, hnext, hkey, hcolon, hvalue, hlater⟩
    · cases more_of_nextEntry hlead hentry hnext
    · obtain ⟨⟨blanks, hblanks, rfl⟩, hspelt⟩ := valued_of_anyEntry hlead hentry hnext hkey hcolon
      have hends : Ends (later ++ '\x7d' :: rest) := hrest.ends .object rest
      rcases List.mem_cons.1 hmem with rfl | hmem
      · -- The name of the field is its key, so its value is read.
        have hfield : Field.ofName? key = some field := by
          rw [hspelt _ hname, ofName?_name]
        rcases hvalue with ⟨found, hfound, hvalue⟩ | ⟨hnone, -, -⟩
        · rw [hfield] at hfound
          cases hfound
          exact ⟨blanks, _, _, _, _, hblanks, hvalue⟩
        · rw [hfield] at hnone
          cases hnone
      · -- The value of another entry is read or skipped up to its end.
        rcases hvalue with ⟨found, -, hvalue⟩ | ⟨-, hskip, -⟩
        · rw [exact_readField found before hblanks hentry.2.1 hvalue] at hlater
          exact ih (Nat.lt_of_succ_lt_succ hfuel) hlater hmem
        · rw [skipValue_value hblanks hentry.2.1 hends] at hskip
          rw [← Except.ok.inj hskip] at hlater
          exact ih (Nat.lt_of_succ_lt_succ hfuel) hlater hmem

/-- **Elements are read in order**: the second one is read as the second field. -/
theorem exists_of_readPositional {field second : Field} {fields : List Field}
    {value value' inner rest : Text} {values : List Text} {before given : Given}
    (h : Members AnyElement true (value :: value' :: values) inner)
    (hread : readPositional (field :: second :: fields) true before (inner ++ ']' :: rest) =
      .ok (given, behind)) :
    ∃ later earlier next unread,
      readField second earlier (value' ++ later) = .ok (next, unread) := by
  cases h with
  | cons hlead hvalue hrest =>
    cases hrest with
    | cons hlead' hvalue' hrest' =>
      obtain ⟨hvalue, rfl⟩ := hvalue
      obtain ⟨hvalue', rfl⟩ := hvalue'
      simp only [List.append_assoc] at hread
      rcases readPositional_cases hread with ⟨hnext, -⟩ | ⟨_, next, _, hnext, hfield, hread⟩
      · rw [nextElement_value hlead hvalue] at hnext
        cases hnext
      · rw [nextElement_value hlead hvalue] at hnext
        cases hnext
        rw [exact_readField field before (List.forall_mem_nil _) hvalue hfield] at hread
        rcases readPositional_cases hread with ⟨hnext, -⟩ | ⟨_, _, _, hnext, hfield, -⟩
        · rw [nextElement_value hlead' hvalue'] at hnext
          cases hnext
        · rw [nextElement_value hlead' hvalue'] at hnext
          cases hnext
          exact ⟨_, _, _, _, hfield⟩

/-- The text gives this for the sites of a configuration: behind their name in an
    object, in any spelling of the name, or in the second place of an array. -/
inductive GivesSites (sites : Text) : Text → Prop
  | named {entries : List RawEntry} {key written : Text}
      (h : Enclosed .object AnyEntry entries written) (hmem : ⟨key, sites⟩ ∈ entries)
      (hname : Spells Field.sites.name key) : GivesSites sites written
  | placed {browsers written : Text} {later : List Text}
      (h : Enclosed .list AnyElement (browsers :: sites :: later) written) :
      GivesSites sites written

/-- What is given for the sites is read as sites. -/
theorem exists_of_read {sites blanks written rest unread : Text} {config : Configuration}
    (hblanks : Space blanks) (h : GivesSites sites written)
    (hread : read (blanks ++ (written ++ rest)) = .ok (config, unread)) :
    ∃ before later earlier next behind, Space before ∧
      readField .sites earlier (before ++ (sites ++ later)) = .ok (next, behind) := by
  cases h with
  | named h hmem hname =>
    obtain ⟨inner, hentries, hskip⟩ := exists_of_enclosed hblanks h rest
    have hfuel := hentries.length_lt anyEntry_ne_nil ('\x7d' :: rest)
    rw [read, hskip] at hread
    obtain ⟨⟨given, behind⟩, hbetween, -⟩ := map_eq_ok_iff.1 hread
    obtain ⟨_, hnamed, -⟩ := exists_of_between hbetween
    exact exists_of_readNamed hentries hfuel hnamed hmem hname
  | placed h =>
    obtain ⟨inner, hvalues, hskip⟩ := exists_of_enclosed hblanks h rest
    rw [read, hskip] at hread
    obtain ⟨⟨given, behind⟩, hbetween, -⟩ := map_eq_ok_iff.1 hread
    obtain ⟨_, hplaced, -⟩ := exists_of_between hbetween
    obtain ⟨later, earlier, next, behind, hfield⟩ := exists_of_readPositional hvalues hplaced
    exact ⟨[], later, earlier, next, behind, List.forall_mem_nil _, hfield⟩

/-! ## The main result -/

/-- **No site is unreachable.**  In a configuration that is read from a document,
    whatever its writing, the rules have different tags, and each is found by its
    tag.  A document whose sites have two entries with keys that spell one tag is
    refused. -/
theorem ofJson_sites :
    (∀ document config, ofJson document = .ok config →
      (config.sites.map SiteRule.tag).Nodup ∧
        ∀ rule ∈ config.sites, config.siteFor? [rule.tag] = some rule.siteId) ∧
      ∀ document sites entries entry other tag, Padded GivesSites sites document →
        Enclosed .object AnyEntry entries sites → [entry, other].Sublist entries →
        Spells tag entry.key → Spells tag other.key →
        ∃ fault, ofJson document = .error fault ∧
          ∀ path, ofContent path (some (.ok document)) = .error (.json fault) := by
  constructor
  · intro document config h
    obtain ⟨rest, hread⟩ := exists_of_readDocument h
    have htags := nodup_read hread
    exact ⟨htags, fun rule hmem => siteFor?_tag htags hmem⟩
  · intro document sites entries entry other tag hdocument hsites htwo htag htag'
    cases hread : ofJson document with
    | error fault =>
      refine ⟨fault, rfl, ?_⟩
      intro path
      rw [ofContent, hread]
    | ok config =>
      exfalso
      obtain ⟨before, written, after, hbefore, hgives, -, rfl⟩ := hdocument
      obtain ⟨rest, hread⟩ := exists_of_readDocument hread
      rw [List.append_assoc] at hread
      obtain ⟨blanks, later, earlier, next, behind, hblanks, hfield⟩ :=
        exists_of_read hbefore hgives hread
      obtain ⟨⟨rules, unread⟩, hrules, -⟩ := bind_eq_ok_iff.1 hfield
      have hapart := (apart_readSites hblanks hsites hrules).2
      exact (List.pairwise_cons.1 (hapart.sublist htwo)).1 other (by simp) tag htag htag'

/-- A document in the form of an array, with an escaped tag, a site in the form of
    an array and an unknown field. -/
def placedDocument : Text :=
  ("[[\"ie10\"], \x7b\"\\u0061\":[\"1\"]," ++
    "\"b\":\x7b\"x\":[-0.5e3,null],\"site_id\":\"2\"\x7d\x7d]").toList

/-- The entry of a tag, and one with the tag in another spelling. -/
def repeatedEntries : List RawEntry :=
  [⟨"a".toList, "\x7b\"site_id\":\"1\"\x7d".toList⟩, ⟨"\\u0061".toList, "[\"2\"]".toList⟩]

/-- Sites with these entries. -/
def repeatedSites : Text :=
  "\x7b\"a\":\x7b\"site_id\":\"1\"\x7d,\"\\u0061\": [\"2\"]\x7d".toList

/-- A document of these sites behind an unknown field that holds half a pair of
    surrogates. -/
def repeatedDocument : Text :=
  "\x7b\"x\":\"\\ud800\", \"sites\":".toList ++ repeatedSites ++ "\x7d\n".toList

theorem enclosed_repeatedSites : Enclosed .object AnyEntry repeatedEntries repeatedSites := by
  have hnone : Space [] := by decide
  have hstring : ∀ {text : Text}, text.all isPlain = true → Content text := fun h =>
    (spells_plain h).content
  have hsite : Grammar .value "\x7b\"site_id\":\"1\"\x7d".toList :=
    @Grammar.enclosed .object _ <| @Grammar.entry true [] "site_id".toList [] [] _ []
      (.first hnone) (hstring (by decide)) hnone hnone
      (@Grammar.string ['1'] (hstring (by decide))) (.nil hnone)
  have hlist : Grammar .value "[\"2\"]".toList :=
    @Grammar.enclosed .list _ <| @Grammar.element true [] _ []
      (.first hnone) (@Grammar.string ['2'] (hstring (by decide))) (.nil hnone)
  have hfirst : AnyEntry ⟨"a".toList, "\x7b\"site_id\":\"1\"\x7d".toList⟩
      "\"a\":\x7b\"site_id\":\"1\"\x7d".toList :=
    ⟨hstring (by decide), hsite, [], [], hnone, hnone, rfl⟩
  have hsecond : AnyEntry ⟨"\\u0061".toList, "[\"2\"]".toList⟩
      "\"\\u0061\": [\"2\"]".toList :=
    ⟨@Content.unit 0x61 "0061".toList [] ⟨'0', '0', '6', '1', rfl, by decide⟩ .nil, hlist, [],
      [' '], hnone, by decide, rfl⟩
  have hcomma : Lead false [','] := @Lead.later [] [] hnone hnone
  exact ⟨_, .cons (.first hnone) hfirst (.cons hcomma hsecond (.nil hnone)), rfl⟩

theorem givesSites_repeatedDocument : Padded GivesSites repeatedSites repeatedDocument := by
  have hnone : Space [] := by decide
  have hhalf : Grammar .value "\"\\ud800\"".toList :=
    @Grammar.string _
      (@Content.unit 0xD800 "d800".toList [] ⟨'d', '8', '0', '0', rfl, by decide⟩ .nil)
  have hunknown : AnyEntry ⟨['x'], "\"\\ud800\"".toList⟩ "\"x\":\"\\ud800\"".toList :=
    ⟨(spells_plain (by decide)).content, hhalf, [], [], hnone, hnone, rfl⟩
  have hsites : AnyEntry ⟨"sites".toList, repeatedSites⟩ ("\"sites\":".toList ++ repeatedSites) :=
    ⟨(spells_plain (by decide)).content, grammar_of_entries enclosed_repeatedSites, [], [], hnone,
      hnone, rfl⟩
  refine ⟨[], _, ['\n'], hnone, .named ⟨_, .cons (.first hnone) hunknown
    (.cons (@Lead.later [] [' '] hnone (by decide)) hsites (.nil hnone)), rfl⟩
      (List.mem_cons_of_mem _ List.mem_cons_self) (spells_plain (by decide)), by decide, rfl⟩

theorem ofJson_sites_respelt :
    (∃ config, ofJson placedDocument = .ok config ∧
      config.sites = [⟨['a'], ['1']⟩, ⟨['b'], ['2']⟩] ∧
      (config.sites.map SiteRule.tag).Nodup ∧
      ∀ rule ∈ config.sites, config.siteFor? [rule.tag] = some rule.siteId) ∧
      Padded GivesSites repeatedSites repeatedDocument ∧
      Enclosed .object AnyEntry repeatedEntries repeatedSites ∧
      (∀ entry ∈ repeatedEntries, Spells ['a'] entry.key) ∧
      ∃ fault, ofJson repeatedDocument = .error fault ∧
        ∀ path, ofContent path (some (.ok repeatedDocument)) = .error (.json fault) := by
  have hread : ∃ config, ofJson placedDocument = .ok config ∧
      config.sites = [⟨['a'], ['1']⟩, ⟨['b'], ['2']⟩] := by
    exact ⟨{ defaultBrowsers := ["ie10".toList], sites := [⟨['a'], ['1']⟩, ⟨['b'], ['2']⟩] },
      by decide +kernel, rfl⟩
  have hplain : Spells ['a'] "a".toList := spells_plain (by decide)
  have hescaped : Spells ['a'] "\\u0061".toList :=
    @Spells.cons 'a' _ [] [] (.unit ⟨'0', '0', '6', '1', rfl, by decide⟩) .nil
  obtain ⟨config, hconfig, hrules⟩ := hread
  refine ⟨⟨config, hconfig, hrules, ofJson_sites.1 _ config hconfig⟩, givesSites_repeatedDocument,
    enclosed_repeatedSites, ?_, ?_⟩
  · intro entry hmem
    simp only [repeatedEntries, List.mem_cons, List.not_mem_nil, or_false] at hmem
    rcases hmem with rfl | rfl
    · exact hplain
    · exact hescaped
  · exact ofJson_sites.2 _ _ _ _ _ _ givesSites_repeatedDocument enclosed_repeatedSites
      (List.Sublist.refl _) hplain hescaped

end Configuration

end Casebook
