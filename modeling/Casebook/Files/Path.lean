import Casebook.Text.Basic

/-! # Paths

    A path is a text of names with slashes between them; it is absolute when it
    starts with a slash.
-/

namespace Casebook.Files

/-- A path as it is written. -/
abbrev Path : Type := Text

namespace Path

/-- Does the path start at the root? -/
def isAbsolute (path : Path) : Bool :=
  path.head? == some '/'

/-- A path taken from another one: behind it with one slash between them, or
    alone if it is absolute. -/
def join (base path : Path) : Path :=
  if isAbsolute path then path
  else if base.isEmpty || base.getLast? == some '/' then base ++ path
  else base ++ '/' :: path

/-- What stands between the slashes of a path. -/
def parts (path : Path) : List Text :=
  Text.split '/' path

/-- The names of a path: repeated slashes count once, and a single dot counts
    only at the very start. -/
def names (path : Path) : List Text :=
  let parts := (parts path).filter fun part => !part.isEmpty
  match parts with
  | [] => []
  | first :: rest =>
    let rest := rest.filter (· != ['.'])
    if first == ['.'] && isAbsolute path then rest else first :: rest

/-- The path of the directory that the last name is in.  The root has none, and
    neither has the empty path. -/
def parent? (path : Path) : Option Path :=
  match names path with
  | [] => none
  | first :: rest =>
    let front := Text.joinWith ['/'] (first :: rest).dropLast
    some (if isAbsolute path then '/' :: front else front)

end Path

end Casebook.Files
