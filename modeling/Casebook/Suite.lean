import Casebook.Book.Basic

/-! # Suites

    A suite is a list of named groups of submissions.  A build runs all groups,
    or those that are named, against one book, always in the order of the suite
    (`Suite.build`).  Names of unknown groups are a fault, and then nothing
    runs.
-/

namespace Casebook

/-- Submissions that belong together. -/
structure Group (ρ : Type) where
  name : Text
  submissions : List (Submission ρ)

/-- Groups in their order. -/
structure Suite (ρ : Type) where
  groups : List (Group ρ)

/-- What a build makes: the book and the notices. -/
structure Build where
  book : Book
  notices : List Notice := []

namespace Suite

variable {ρ : Type}

/-- The names of the groups, in order. -/
def names (suite : Suite ρ) : List Text :=
  suite.groups.map Group.name

/-- The names asked for that no group has. -/
def unknown (suite : Suite ρ) (only : List Text) : List Text :=
  only.filter fun name => !suite.names.contains name

/-- The groups asked for; all of them if no name is given. -/
def selected (suite : Suite ρ) (only : List Text) : List (Group ρ) :=
  if only.isEmpty then suite.groups else suite.groups.filter fun group => only.contains group.name

end Suite

/-- The build after one more group. -/
def Build.addGroup {ρ : Type} (build : Build) (group : Group ρ) : Build :=
  let (book, reports) := build.book.submitAll group.submissions
  { book
    notices := build.notices ++ .buildingGroup group.name
      :: List.zipWith Submission.notice group.submissions reports }

/-- **Building.**  Runs the groups asked for against an empty book. -/
def Suite.build {ρ : Type} (suite : Suite ρ) (config : Configuration) (only : List Text) :
    Except Fault Build :=
  let unknown := suite.unknown only
  if unknown.isEmpty then
    .ok ((suite.selected only).foldl Build.addGroup { book := Book.empty config })
  else .error (.unknownGroups unknown)

end Casebook
