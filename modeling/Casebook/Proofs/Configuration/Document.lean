import Casebook.Configuration.Document
import Casebook.Proofs.Json.Reading
import Mathlib.Data.List.Nodup

/-! # Configuration documents are read back

    A document writes a configuration as an object of some of its fields, in any
    order and in any of the ways that JSON leaves open (`Configuration.Document`).
    It is read to that configuration, with the defaults for the fields that it
    leaves out (`Configuration.ofJson_document`).

    What is read depends on the document only through the fields that it has:
    each loop of the reader puts one more rule or field behind those it has
    read, and so gives back what was written, in order and complete.
-/

namespace Casebook

open Json

/-! ## What documents write -/

/-- A site is an object with its id. -/
def SiteWritten : Writing Text := fun siteId text =>
  Keyed (fun _ : Text => "site_id".toList) Quoted [siteId] text

/-- The sites are an object of all rules, by their tags and in their order. -/
def SitesWritten : Writing (List SiteRule) :=
  Keyed SiteRule.tag fun rule => SiteWritten rule.siteId

namespace Configuration

/-- The values of the fields of a configuration. -/
def FieldWritten (config : Configuration) : Writing Field
  | .defaultBrowsers => Listed Quoted config.defaultBrowsers
  | .sites => SitesWritten config.sites
  | .addTags => Listed Quoted config.addTags
  | .tagsAsSuffix => Listed Quoted config.tagsAsSuffix

/-- The text is a document of these fields of the configuration. -/
def Document (config : Configuration) : List Field → Text → Prop :=
  Padded (Keyed Field.name config.FieldWritten)

/-- The configuration with these fields, and the default for every other. -/
def keeping (config : Configuration) (fields : List Field) : Configuration where
  defaultBrowsers :=
    if Field.defaultBrowsers ∈ fields then config.defaultBrowsers else ["chrome".toList]
  sites := if Field.sites ∈ fields then config.sites else []
  addTags := if Field.addTags ∈ fields then config.addTags else []
  tagsAsSuffix := if Field.tagsAsSuffix ∈ fields then config.tagsAsSuffix else []

theorem keeping_of_all {config : Configuration} {fields : List Field}
    (h : ∀ field, field ∈ fields) : config.keeping fields = config := by
  simp only [keeping, h, if_true]

/-- Every configuration has documents. -/
theorem exists_document (config : Configuration) (fields : List Field) :
    ∃ document, config.Document fields document := by
  have hlist : ∀ texts : List Text, ∃ written, Listed Quoted texts written := fun texts =>
    exists_enclosed .list fun text _ => exists_quoted text
  have hsite : ∀ siteId, ∃ written, SiteWritten siteId written := fun siteId =>
    exists_enclosed .object fun text _ => exists_entry _ (exists_quoted text)
  have hfield : ∀ field, ∃ written, config.FieldWritten field written := by
    intro field
    cases field with
    | defaultBrowsers => exact hlist _
    | sites => exact exists_enclosed .object fun rule _ => exists_entry _ (hsite rule.siteId)
    | addTags => exact hlist _
    | tagsAsSuffix => exact hlist _
  obtain ⟨written, hwritten⟩ : ∃ written, Keyed Field.name config.FieldWritten fields written :=
    exists_enclosed .object fun field _ => exists_entry _ (hfield field)
  exact ⟨_, [], written, [], List.forall_mem_nil _, hwritten, List.forall_mem_nil _, rfl⟩

/-! ## Sites are read -/

theorem readSiteObject_members {siteId inner : Text}
    (h : Members (Entry (fun _ : Text => siteIdName) Quoted) true [siteId] inner) (rest : Text) :
    readSiteObject (inner ++ '\x7d' :: rest) = .ok (siteId, '\x7d' :: rest) := by
  obtain ⟨fuel, hfuel⟩ : ∃ fuel, (inner ++ '\x7d' :: rest).length = fuel + 1 := by
    refine ⟨inner.length + rest.length, ?_⟩
    rw [List.length_append, List.length_cons, Nat.add_assoc]
  unfold readSiteObject
  rw [hfuel]
  cases h with
  | @cons _ lead written later _ _ hlead hentry hrest =>
    cases hrest with
    | nil hblanks =>
      obtain ⟨opened, named, blanks, valued, hnext, hname, hcolon, hblank, hvalue⟩ :=
        exists_of_entry hlead hentry (later ++ '\x7d' :: rest)
      have hread := reads_readText hblank hvalue (later ++ '\x7d' :: rest)
      rw [List.append_assoc, List.append_assoc]
      simp [readSiteFields, hnext, hname, hcolon, hread, nextEntry_closing hblanks, bind,
        Except.bind]

theorem reads_readSite : Reads readSite SiteWritten := by
  intro blanks written siteId hblanks hwritten rest
  obtain ⟨inner, hmembers, hskip⟩ := exists_of_enclosed hblanks hwritten rest
  rw [readSite, hskip]
  exact between_eq_ok (readSiteObject_members hmembers rest)

/-- **The rules keep their order.**  If their tags differ, each rule is put
    behind those before it. -/
theorem readRules_members {first : Bool} {rules : List SiteRule} {inner : Text}
    (h : Members (Entry SiteRule.tag fun rule => SiteWritten rule.siteId) first rules inner)
    {before : List SiteRule} (htags : ((before ++ rules).map SiteRule.tag).Nodup) {fuel : Nat}
    (hfuel : rules.length < fuel) (rest : Text) :
    readRules fuel first before (inner ++ '\x7d' :: rest) =
      .ok (before ++ rules, '\x7d' :: rest) := by
  induction h generalizing before fuel with
  | nil hblanks =>
    obtain ⟨fuel, rfl⟩ := Nat.exists_eq_add_one_of_ne_zero (Nat.ne_zero_of_lt hfuel)
    simp [readRules, nextEntry_closing hblanks, bind, Except.bind]
  | @cons first lead written later rule rules hlead hentry hrest ih =>
    obtain ⟨fuel, rfl⟩ := Nat.exists_eq_add_one_of_ne_zero (Nat.ne_zero_of_lt hfuel)
    obtain ⟨opened, named, blanks, valued, hnext, hname, hcolon, hblank, hvalue⟩ :=
      exists_of_entry hlead hentry (later ++ '\x7d' :: rest)
    have hread := reads_readSite hblank hvalue (later ++ '\x7d' :: rest)
    have hnew : rule.tag ∉ before.map SiteRule.tag := by
      rw [List.map_append, List.nodup_append] at htags
      intro hmem
      exact htags.2.2 _ hmem rule.tag (by simp) rfl
    have hmoved : before ++ rule :: rules = before ++ [rule] ++ rules := by simp
    have hlater := ih (hmoved ▸ htags) (Nat.lt_of_succ_lt_succ hfuel)
    rw [List.append_assoc, List.append_assoc, hmoved]
    simp only [readRules, hnext, hname, hcolon, hread, hlater, List.contains_iff_mem, hnew, bind,
      Except.bind, if_true, if_false]

theorem readSites_written {rules : List SiteRule} (htags : (rules.map SiteRule.tag).Nodup)
    {blanks written : Text} (hblanks : Space blanks) (h : SitesWritten rules written)
    (rest : Text) : readSites (blanks ++ (written ++ rest)) = .ok (rules, rest) := by
  obtain ⟨inner, hmembers, hskip⟩ := exists_of_enclosed hblanks h rest
  have hfuel := hmembers.length_lt entry_ne_nil ('\x7d' :: rest)
  rw [readSites, hskip]
  have hall : (([] ++ rules).map SiteRule.tag).Nodup := htags
  exact between_eq_ok (readRules_members hmembers hall hfuel rest)

/-! ## Fields are read -/

/-- The fields given so far, and one more of the configuration. -/
def give (config : Configuration) (given : Given) : Field → Given
  | .defaultBrowsers => { given with defaultBrowsers := some config.defaultBrowsers }
  | .sites => { given with sites := some config.sites }
  | .addTags => { given with addTags := some config.addTags }
  | .tagsAsSuffix => { given with tagsAsSuffix := some config.tagsAsSuffix }

/-- Only the new field becomes a given one. -/
theorem has_give (config : Configuration) (given : Given) (field other : Field) :
    (config.give given field).has other = (field == other || given.has other) := by
  cases field <;> cases other <;> rfl

theorem ofName?_name (field : Field) : Field.ofName? field.name = some field := by
  cases field <;> decide

/-- **A field is read** to its value in the configuration. -/
theorem readField_written {config : Configuration} (htags : (config.sites.map SiteRule.tag).Nodup)
    {blanks written : Text} {field : Field} (hblanks : Space blanks)
    (h : config.FieldWritten field written) (given : Given) (rest : Text) :
    readField field given (blanks ++ (written ++ rest)) = .ok (config.give given field, rest) := by
  have hlist : Reads (readList readText) (Listed Quoted) :=
    reads_readList reads_readText opens_quoted
  cases field with
  | defaultBrowsers => simp [readField, hlist hblanks h rest, give, bind, Except.bind]
  | sites => simp [readField, readSites_written htags hblanks h rest, give, bind, Except.bind]
  | addTags => simp [readField, hlist hblanks h rest, give, bind, Except.bind]
  | tagsAsSuffix => simp [readField, hlist hblanks h rest, give, bind, Except.bind]

/-- **Fields may come in any order.**  Different fields that are not given yet
    are given one after the other. -/
theorem readNamed_members {config : Configuration} (htags : (config.sites.map SiteRule.tag).Nodup)
    {first : Bool} {fields : List Field} {inner : Text}
    (h : Members (Entry Field.name config.FieldWritten) first fields inner) {given : Given}
    (hfields : fields.Nodup) (hnew : ∀ field ∈ fields, given.has field = false) {fuel : Nat}
    (hfuel : fields.length < fuel) (rest : Text) :
    readNamed fuel first given (inner ++ '\x7d' :: rest) =
      .ok (fields.foldl config.give given, '\x7d' :: rest) := by
  induction h generalizing given fuel with
  | nil hblanks =>
    obtain ⟨fuel, rfl⟩ := Nat.exists_eq_add_one_of_ne_zero (Nat.ne_zero_of_lt hfuel)
    simp [readNamed, nextEntry_closing hblanks, bind, Except.bind]
  | @cons first lead written later field fields hlead hentry hrest ih =>
    obtain ⟨fuel, rfl⟩ := Nat.exists_eq_add_one_of_ne_zero (Nat.ne_zero_of_lt hfuel)
    obtain ⟨opened, named, blanks, valued, hnext, hname, hcolon, hblank, hvalue⟩ :=
      exists_of_entry hlead hentry (later ++ '\x7d' :: rest)
    have hread := readField_written htags hblank hvalue given (later ++ '\x7d' :: rest)
    obtain ⟨hother, hfields⟩ := List.nodup_cons.1 hfields
    have hnew' : ∀ other ∈ fields, (config.give given field).has other = false := by
      intro other hmem
      have hne : field ≠ other := by
        rintro rfl
        exact hother hmem
      rw [has_give, hnew other (List.mem_cons_of_mem field hmem), Bool.or_false]
      exact beq_eq_false_iff_ne.2 hne
    have hlater := ih hfields hnew' (Nat.lt_of_succ_lt_succ hfuel)
    rw [List.append_assoc, List.append_assoc]
    simp [readNamed, hnext, hname, hcolon, hread, hlater, ofName?_name, hnew field (by simp), bind,
      Except.bind]

/-! ## The main result -/

/-- What fields that are given one after the other leave. -/
theorem foldl_give (config : Configuration) (fields : List Field) (given : Given) :
    fields.foldl config.give given =
      { defaultBrowsers :=
          if Field.defaultBrowsers ∈ fields then some config.defaultBrowsers
          else given.defaultBrowsers
        sites := if Field.sites ∈ fields then some config.sites else given.sites
        addTags := if Field.addTags ∈ fields then some config.addTags else given.addTags
        tagsAsSuffix :=
          if Field.tagsAsSuffix ∈ fields then some config.tagsAsSuffix
          else given.tagsAsSuffix } := by
  induction fields generalizing given with
  | nil => rfl
  | cons field rest ih =>
    rw [List.foldl_cons, ih]
    cases field <;> simp [give]

theorem ofGiven_foldl_give (config : Configuration) (fields : List Field) :
    ofGiven (fields.foldl config.give {}) = config.keeping fields := by
  rw [foldl_give]
  simp only [ofGiven, keeping]
  congr 1
  all_goals split <;> rfl

theorem reads_read {config : Configuration} (htags : (config.sites.map SiteRule.tag).Nodup) :
    Reads read fun kept text => ∃ fields, fields.Nodup ∧ kept = config.keeping fields ∧
      Keyed Field.name config.FieldWritten fields text := by
  rintro blanks written kept hblanks ⟨fields, hfields, rfl, hwritten⟩ rest
  obtain ⟨inner, hmembers, hskip⟩ := exists_of_enclosed hblanks hwritten rest
  have hfuel := hmembers.length_lt entry_ne_nil ('\x7d' :: rest)
  have hnew : ∀ field ∈ fields, ({} : Given).has field = false := by
    intro field _
    cases field <;> rfl
  have hread : between .object
      (readNamed ((inner ++ Bracket.object.closing :: rest).length + 1) true {})
      (inner ++ Bracket.object.closing :: rest) = .ok (fields.foldl config.give {}, rest) :=
    between_eq_ok (readNamed_members htags hmembers hfields hnew hfuel rest)
  rw [read, hskip, ← ofGiven_foldl_give]
  show (between .object _ _).map _ = _
  rw [hread]
  rfl

/-- **Reading a document.**  Every document of some fields of a configuration
    with different tags, in any order and writing, is read to these fields as
    they are and the defaults for the others.  A document of all fields is read
    to the configuration. -/
theorem ofJson_document {config : Configuration} (htags : (config.sites.map SiteRule.tag).Nodup)
    {fields : List Field} (hfields : fields.Nodup) {document : Text}
    (h : config.Document fields document) :
    ofJson document = .ok (config.keeping fields) ∧
      ((∀ field, field ∈ fields) → ofJson document = .ok config) := by
  obtain ⟨before, written, after, hbefore, hwritten, hafter, hdocument⟩ := h
  have hread : ofJson document = .ok (config.keeping fields) :=
    Reads.readDocument (reads_read htags)
      ⟨before, written, after, hbefore, ⟨fields, hfields, rfl, hwritten⟩, hafter, hdocument⟩
  refine ⟨hread, ?_⟩
  intro hall
  rw [hread, keeping_of_all hall]

/-- A configuration with a tag beyond the first plane and a control character in
    an id. -/
def unusual : Configuration where
  defaultBrowsers := []
  sites := [⟨[Char.ofNat 0x1F600], "/\t".toList⟩]
  addTags := ["left out".toList]

/-- A document of its browsers and sites, in the other order. -/
def unusualDocument : Text :=
  ("\n\x7b\"s\\u0069tes\": \x7b\"\\ud83D\\uDe00\"\r:\x7b\"site_id\":\"\\/\\t\"\x7d \x7d ,\t" ++
    "\"defaultBrowsers\":[ ]\x7d ").toList

theorem document_unusual : unusual.Document [.sites, .defaultBrowsers] unusualDocument := by
  have hnone : Space [] := by decide
  have htag : Quoted [Char.ofNat 0x1F600] "\"\\ud83D\\uDe00\"".toList :=
    ⟨_, .cons (.pair (by decide) ⟨'d', '8', '3', 'D', rfl, by decide⟩
      ⟨'D', 'e', '0', '0', rfl, by decide⟩) .nil, rfl⟩
  have hid : Quoted "/\t".toList "\"\\/\\t\"".toList :=
    ⟨_, .cons (.short (by decide)) (.cons (.short (by decide)) .nil), rfl⟩
  have hsite : SiteWritten "/\t".toList "\x7b\"site_id\":\"\\/\\t\"\x7d".toList :=
    ⟨_, .cons (.first hnone)
      ⟨_, [], [], _, ⟨_, spells_plain (by decide), rfl⟩, hnone, hnone, hid, rfl⟩ (.nil hnone), rfl⟩
  have hsites : SitesWritten unusual.sites
      "\x7b\"\\ud83D\\uDe00\"\r:\x7b\"site_id\":\"\\/\\t\"\x7d \x7d".toList :=
    ⟨_, .cons (.first hnone) ⟨_, ['\r'], [], _, htag, by decide, hnone, hsite, rfl⟩
      (.nil (show Space [' '] by decide)), rfl⟩
  have hbrowsers : Listed Quoted unusual.defaultBrowsers "[ ]".toList :=
    ⟨[' '], .nil (by decide), rfl⟩
  have hname : Quoted "sites".toList "\"s\\u0069tes\"".toList :=
    ⟨_, .cons (.plain (by decide) (by decide) (by decide))
      (.cons (.unit ⟨'0', '0', '6', '9', rfl, by decide⟩) (spells_plain (by decide))), rfl⟩
  have hsitesEntry : Entry Field.name unusual.FieldWritten .sites
      "\"s\\u0069tes\": \x7b\"\\ud83D\\uDe00\"\r:\x7b\"site_id\":\"\\/\\t\"\x7d \x7d".toList :=
    ⟨_, [], [' '], _, hname, hnone, by decide, hsites, rfl⟩
  have hbrowsersEntry : Entry Field.name unusual.FieldWritten .defaultBrowsers
      "\"defaultBrowsers\":[ ]".toList :=
    ⟨_, [], [], _, ⟨_, spells_plain (by decide), rfl⟩, hnone, hnone, hbrowsers, rfl⟩
  have hsecond : Lead false " ,\t".toList :=
    .later (show Space [' '] by decide) (show Space ['\t'] by decide)
  exact ⟨['\n'], _, [' '], by decide,
    ⟨_, .cons (.first hnone) hsitesEntry (.cons hsecond hbrowsersEntry (.nil hnone)), rfl⟩,
    by decide, rfl⟩

theorem ofJson_document_unusual :
    unusual.Document [.sites, .defaultBrowsers] unusualDocument ∧
      ofJson unusualDocument = .ok { defaultBrowsers := [], sites := unusual.sites } ∧
      ∃ document, unusual.Document Field.all document ∧ ofJson document = .ok unusual := by
  have htags : (unusual.sites.map SiteRule.tag).Nodup := by decide
  obtain ⟨hread, -⟩ := ofJson_document htags (by decide) document_unusual
  obtain ⟨document, hdocument⟩ := unusual.exists_document Field.all
  have hall : ∀ field, field ∈ Field.all := by
    intro field
    cases field <;> decide
  exact ⟨document_unusual, hread, document, hdocument,
    (ofJson_document htags (by decide) hdocument).2 hall⟩

end Configuration

end Casebook
