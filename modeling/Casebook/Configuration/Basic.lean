import Casebook.Text.Basic

/-! # Configuration

    What all cases of a build share: the browsers of cases that name none, the
    sites that tags lead to, tags that every case gets, and tags that show in
    titles.

    The site rules are tried in order, and the first one whose tag a case has
    decides (`Configuration.siteFor?`).
-/

namespace Casebook

/-- Cases with the tag run on the site. -/
structure SiteRule where
  tag : Text
  siteId : Text
  deriving DecidableEq, Repr

/-- What all cases of a build share. -/
structure Configuration where
  /-- browsers of the cases that name none -/
  defaultBrowsers : List Text := ["chrome".toList]
  /-- the rules that find a case's site, in order -/
  sites : List SiteRule := []
  /-- tags that every case gets -/
  addTags : List Text := []
  /-- tags that are added to the titles of the cases that declare them -/
  tagsAsSuffix : List Text := []
  deriving DecidableEq, Repr

namespace Configuration

/-- The configuration with a further rule behind the others. -/
def withSite (config : Configuration) (tag siteId : Text) : Configuration :=
  { config with sites := config.sites ++ [⟨tag, siteId⟩] }

/-- The site of the first rule whose tag is among the tags. -/
def siteFor? (config : Configuration) (tags : List Text) : Option Text :=
  (config.sites.find? fun rule => tags.contains rule.tag).map SiteRule.siteId

/-- The tag that new cases start with: that of the first rule. -/
def firstSiteTag (config : Configuration) : Text :=
  match config.sites with
  | [] => "none".toList
  | rule :: _ => rule.tag

end Configuration

end Casebook
