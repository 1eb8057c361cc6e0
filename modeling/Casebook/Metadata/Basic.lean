import Casebook.Metadata.Comment

/-! # Metadata

    What the author of a test case declares about it, apart from its steps.  It
    is given directly or read from settings, where only the names below count.

    * `title`, `tags`, `path` and `site_id` must be lists; a bare flag counts as
      absent.
    * `browser` wins over `browsers`; a list of no browsers counts as absent.
    * `disabled` counts in either form.
-/

namespace Casebook

/-- What an author declares about a test case. -/
structure Metadata where
  title : Option Text := none
  tags : List Text := []
  /-- names of browsers; without them the configured defaults are used -/
  browsers : Option (List Text) := none
  path : Option Text := none
  /-- the site the case runs on; without it the tags decide -/
  siteId : Option Text := none
  disabled : Bool := false
  deriving DecidableEq, Repr

namespace Metadata

/-- The metadata that settings declare. -/
def ofSettings (settings : Settings) : Metadata where
  title := (settings.list? "title".toList).map (Text.joinWith ", ".toList)
  tags := (settings.list? "tags".toList).getD []
  browsers :=
    ((settings.list? "browser".toList).or (settings.list? "browsers".toList)).filter
      fun names => !names.isEmpty
  path := (settings.list? "path".toList).map (Text.joinWith [','])
  siteId := (settings.list? "site_id".toList).map (Text.joinWith [','])
  disabled := settings.has "disabled".toList

/-- The metadata that a comment text declares. -/
def ofComment (source : Text) : Metadata :=
  ofSettings (Settings.ofComment source)

end Metadata

end Casebook
