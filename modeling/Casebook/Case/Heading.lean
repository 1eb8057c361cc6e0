import Casebook.Configuration.Basic
import Casebook.Metadata.Basic
import Casebook.Platform

/-! # Headings

    The heading of a test case is all of it but its steps.  It follows from what
    the author declares and from the configuration (`Configuration.heading`):

    * an empty title or path is replaced by a default;
    * the tags that are configured for it show behind the title;
    * the browsers, or else the configured ones, are resolved to platforms;
    * a case without a site gets that of its declared tags;
    * the tags of every case are added behind those declared.
-/

namespace Casebook

/-- Everything about a test case but its steps. -/
structure Heading where
  id : Text
  title : Text
  siteId : Option Text := none
  path : Text
  tags : List Text := []
  /-- platform identifiers -/
  browsers : List Text := []
  disabled : Bool := false
  deriving DecidableEq, Repr

namespace Heading

/-- Does the case have the tag? -/
def hasTag (heading : Heading) (tag : Text) : Bool :=
  heading.tags.contains tag

/-- Does the case run on a browser with this in its name?  The names are
    searched as one text, with spaces between them. -/
def hasBrowser (heading : Heading) (fragment : Text) : Bool :=
  Text.contains (Text.joinWith [' '] heading.browsers) fragment

end Heading

/-- The title of a case that declares none. -/
def defaultTitle : Text := "unnamed test".toList

/-- The start path of a case that declares none. -/
def defaultPath : Text := ['/']

/-- The browser of a case when not even the configuration names one. -/
def lastResortBrowser : Text := "chrome".toList

/-- What is declared, or the default when that is missing or empty. -/
def declaredOr (default : Text) (declared : Option Text) : Text :=
  match declared with
  | none => default
  | some text => if text.isEmpty then default else text

namespace Configuration

/-- The names of the browsers that a case runs on. -/
def browserNames (config : Configuration) (metadata : Metadata) : List Text :=
  match metadata.browsers with
  | some (name :: names) => name :: names
  | _ => if config.defaultBrowsers.isEmpty then [lastResortBrowser] else config.defaultBrowsers

/-- The declared tags that show in the title, in the order of declaration. -/
def suffixTags (config : Configuration) (tags : List Text) : List Text :=
  tags.filter config.tagsAsSuffix.contains

/-- The title of a case, with the tags that show in it. -/
def titleOf (config : Configuration) (metadata : Metadata) : Text :=
  let title := declaredOr defaultTitle metadata.title
  let suffix := config.suffixTags metadata.tags
  if suffix.isEmpty then title
  else title ++ " (".toList ++ Text.joinWith ['/'] suffix ++ [')']

/-- Tags with a further one behind them, unless it is among them. -/
def addTag (tags : List Text) (tag : Text) : List Text :=
  if tags.contains tag then tags else tags ++ [tag]

/-- The declared tags with those of every case. -/
def allTags (config : Configuration) (tags : List Text) : List Text :=
  config.addTags.foldl addTag tags

/-- The heading of a case.  Only the declared tags decide its title and site. -/
def heading (config : Configuration) (id : Text) (metadata : Metadata) : Heading where
  id
  title := config.titleOf metadata
  siteId := metadata.siteId.or (config.siteFor? metadata.tags)
  path := declaredOr defaultPath metadata.path
  tags := config.allTags metadata.tags
  browsers := (config.browserNames metadata).map Platform.resolve
  disabled := metadata.disabled

end Configuration

end Casebook
