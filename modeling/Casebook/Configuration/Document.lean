import Casebook.Configuration.Basic
import Casebook.Json.Typed

/-! # Configuration documents

    A configuration is a JSON document:

        { "defaultBrowsers": ["chrome", "firefox"],
          "sites": { "login": { "site_id": "1234" } },
          "addTags": ["regression"],
          "tagsAsSuffix": ["mobile"] }

    A field that is left out has its default, and unknown fields are skipped.
    The site rules keep the order of the document; a tag has one rule only.  The
    configuration and each site may also be written as an array of the fields
    in this order.
-/

namespace Casebook

open Json

/-! ## Fields -/

namespace Configuration

/-- The fields of a configuration. -/
inductive Field where
  | defaultBrowsers
  | sites
  | addTags
  | tagsAsSuffix
  deriving DecidableEq, Repr

/-- The name of a field in a document. -/
def Field.name : Field → Text
  | .defaultBrowsers => "defaultBrowsers".toList
  | .sites => "sites".toList
  | .addTags => "addTags".toList
  | .tagsAsSuffix => "tagsAsSuffix".toList

/-- The fields, in their order. -/
def Field.all : List Field :=
  [.defaultBrowsers, .sites, .addTags, .tagsAsSuffix]

/-- The field of a name. -/
def Field.ofName? (name : Text) : Option Field :=
  Field.all.find? fun field => field.name = name

/-- The fields that a document has given so far. -/
structure Given where
  defaultBrowsers : Option (List Text) := none
  sites : Option (List SiteRule) := none
  addTags : Option (List Text) := none
  tagsAsSuffix : Option (List Text) := none

/-- Is the field given already? -/
def Given.has (given : Given) : Field → Bool
  | .defaultBrowsers => given.defaultBrowsers.isSome
  | .sites => given.sites.isSome
  | .addTags => given.addTags.isSome
  | .tagsAsSuffix => given.tagsAsSuffix.isSome

/-- The configuration with the fields that are given and the defaults of the
    others. -/
def ofGiven (given : Given) : Configuration :=
  let config : Configuration := {}
  { defaultBrowsers := given.defaultBrowsers.getD config.defaultBrowsers
    sites := given.sites.getD config.sites
    addTags := given.addTags.getD config.addTags
    tagsAsSuffix := given.tagsAsSuffix.getD config.tagsAsSuffix }

/-! ## Sites -/

/-- The name of the field that holds the id of a site. -/
def siteIdName : Text := "site_id".toList

/-- Reads the fields of a site, at most `fuel` of them. -/
def readSiteFields : Nat → Bool → Option Text → Reader (Option Text)
  | 0, _, siteId?, text => .ok (siteId?, text)
  | fuel + 1, first, siteId?, text => do
    let (more, text) ← nextEntry first text
    if more then
      let (key, text) ← readString text
      if key = siteIdName then
        if siteId?.isSome then stopWithin (.duplicateField siteIdName) text
        else
          let text ← colon text
          let (siteId, text) ← readText text
          readSiteFields fuel false (some siteId) text
      else
        let text ← colon text
        let text ← skipValue text
        readSiteFields fuel false siteId? text
    else .ok (siteId?, text)

/-- Reads the entries of a site written as an object. -/
def readSiteObject : Reader Text := fun text => do
  let (siteId?, text) ← readSiteFields (text.length + 1) true none text
  match siteId? with
  | some siteId => .ok (siteId, text)
  | none => stopWithin (.missingField siteIdName) text

/-- Reads the elements of a site written as an array. -/
def readSiteArray : Reader Text := fun text => do
  let (more, text) ← nextElement true text
  if more then readText text
  else stopWithin (.invalidLength 0 "struct SiteEntry with 1 element".toList) text

/-- Reads a site: its id. -/
def readSite : Reader Text := fun text =>
  match skipSpace text with
  | [] => stopAt .endInValue []
  | c :: rest =>
    if c = Bracket.object.opening then between .object readSiteObject rest
    else if c = Bracket.list.opening then between .list readSiteArray rest
    else wrongType "struct SiteEntry".toList (c :: rest)

/-- Reads rules until the closing brace, behind those read before, at most
    `fuel` of them. -/
def readRules : Nat → Bool → List SiteRule → Reader (List SiteRule)
  | 0, _, rules, text => .ok (rules, text)
  | fuel + 1, first, rules, text => do
    let (more, text) ← nextEntry first text
    if more then
      let (tag, text) ← readString text
      let text ← colon text
      let (siteId, text) ← readSite text
      if (rules.map SiteRule.tag).contains tag then
        refuse ("duplicate site tag: ".toList ++ tag) text
      else readRules fuel false (rules ++ [⟨tag, siteId⟩]) text
    else .ok (rules, text)

/-- What the sites of a configuration are to be. -/
def sitesExpected : Text :=
  "a map of tag names to \x7b \"site_id\": ... \x7d".toList

/-- Reads the site rules, in the order of the document. -/
def readSites : Reader (List SiteRule) := fun text =>
  match skipSpace text with
  | [] => stopAt .endInValue []
  | c :: rest =>
    if c = Bracket.object.opening then
      between .object (readRules (rest.length + 1) true []) rest
    else wrongType sitesExpected (c :: rest)

/-! ## The whole configuration -/

/-- Reads the value of a field. -/
def readField (field : Field) (given : Given) : Reader Given := fun text =>
  match field with
  | .defaultBrowsers => do
    let (names, text) ← readList readText text
    .ok ({ given with defaultBrowsers := some names }, text)
  | .sites => do
    let (rules, text) ← readSites text
    .ok ({ given with sites := some rules }, text)
  | .addTags => do
    let (tags, text) ← readList readText text
    .ok ({ given with addTags := some tags }, text)
  | .tagsAsSuffix => do
    let (tags, text) ← readList readText text
    .ok ({ given with tagsAsSuffix := some tags }, text)

/-- Reads named fields until the closing brace, at most `fuel` of them. -/
def readNamed : Nat → Bool → Given → Reader Given
  | 0, _, given, text => .ok (given, text)
  | fuel + 1, first, given, text => do
    let (more, text) ← nextEntry first text
    if more then
      let (key, text) ← readString text
      match Field.ofName? key with
      | some field =>
        if given.has field then stopWithin (.duplicateField field.name) text
        else
          let text ← colon text
          let (given, text) ← readField field given text
          readNamed fuel false given text
      | none =>
        let text ← colon text
        let text ← skipValue text
        readNamed fuel false given text
    else .ok (given, text)

/-- Reads the elements of a configuration written as an array: values of the
    fields in order, as far as there are any. -/
def readPositional : List Field → Bool → Given → Reader Given
  | [], _, given, text => .ok (given, text)
  | field :: fields, first, given, text => do
    let (more, text) ← nextElement first text
    if more then
      let (given, text) ← readField field given text
      readPositional fields false given text
    else .ok (given, text)

/-- Reads a configuration. -/
def read : Reader Configuration := fun text =>
  match skipSpace text with
  | [] => stopAt .endInValue []
  | c :: rest =>
    if c = Bracket.object.opening then
      (between .object (readNamed (rest.length + 1) true {}) rest).map fun (given, rest) =>
        (ofGiven given, rest)
    else if c = Bracket.list.opening then
      (between .list (readPositional Field.all true {}) rest).map fun (given, rest) =>
        (ofGiven given, rest)
    else wrongType "struct SiteConfig".toList (c :: rest)

/-- **Reading.**  The configuration that a JSON document writes, or the first
    problem of the document. -/
def ofJson (document : Text) : Except Json.Fault Configuration :=
  readDocument read document

end Configuration

end Casebook
