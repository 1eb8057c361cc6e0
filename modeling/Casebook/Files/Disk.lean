import Casebook.Files.Encoding
import Casebook.Files.Fault
import Casebook.Files.Path

/-! # The disk

    Files and directories, and the directory that relative paths start from.  A
    place is given by the names from the root on.  A path is followed name by
    name, and every name but the last must lead to a directory: a dot stays, two
    dots lead up, and the root is above itself.

    Nothing is ever removed; directories are made (`Disk.makeDirectory`,
    `Disk.makeDirectories`), and files are read and written (`Disk.readText`,
    `Disk.writeText`).
-/

namespace Casebook.Files

/-- The place of a file or directory: the names that lead to it from the
    root. -/
abbrev Place : Type := List Text

/-- Contents of files are compared byte by byte.  Of the two decisions of this in the
    library, it is the one that is there without further imports. -/
instance decidableEqContent : DecidableEq ByteArray := ByteArray.instDecidableEq

/-- What is at a place. -/
inductive Node where
  | directory
  | file (content : ByteArray)
  deriving DecidableEq

/-- The files and directories, and where relative paths start. -/
structure Disk where
  nodes : List (Place × Node) := []
  workingDirectory : Place := []
  deriving DecidableEq

/-- The longest name, in bytes. -/
def longestName : Nat := 255

/-- The longest path, in bytes. -/
def longestPath : Nat := 4095

namespace Disk

/-! ## Following paths -/

/-- What is at a place.  The root is a directory always. -/
def node? (disk : Disk) (place : Place) : Option Node :=
  if place.isEmpty then some .directory else disk.nodes.lookup place

/-- Is a directory at the place? -/
def isDirectoryAt (disk : Disk) (place : Place) : Bool :=
  disk.node? place == some .directory

/-- Stays at a place if it is a directory. -/
def enter (disk : Disk) (place : Place) : Except Fault Place :=
  match disk.node? place with
  | some .directory => .ok place
  | some (.file _) => .error .notDirectory
  | none => .error .notFound

/-- The place of a name in a directory, whether or not anything is there. -/
def child (place : Place) (name : Text) : Except Fault Place :=
  if longestName < (encode name).size then .error .nameTooLong
  else .ok (place ++ [name])

/-- Follows one part of a path. -/
def follow (disk : Disk) (place : Place) (part : Text) : Except Fault Place := do
  let here ← disk.enter place
  if part = [] ∨ part = ['.'] then .ok here
  else if part = ['.', '.'] then .ok here.dropLast
  else
    let there ← child here part
    if (disk.node? there).isSome then .ok there else .error .notFound

/-- Follows the parts of a path from a place on. -/
def followAll (disk : Disk) (start : Place) (parts : List Text) : Except Fault Place :=
  parts.foldlM disk.follow start

/-- Where a path starts. -/
def start (disk : Disk) (path : Path) : Place :=
  if Path.isAbsolute path then [] else disk.workingDirectory

/-- Refuses what cannot be a path at all. -/
def checkPath (path : Path) : Except Fault Unit :=
  if '\x00' ∈ path then .error .zeroInPath
  else if path.isEmpty then .error .notFound
  else if longestPath < (encode path).size then .error .nameTooLong
  else .ok ()

/-- The place that a path leads to, where something is. -/
def locate (disk : Disk) (path : Path) : Except Fault Place := do
  checkPath path
  disk.followAll (disk.start path) (Path.parts path)

/-- Is there anything at the end of the path? -/
def has (disk : Disk) (path : Path) : Bool :=
  (disk.locate path).isOk

/-- Does the path lead to a directory? -/
def hasDirectory (disk : Disk) (path : Path) : Bool :=
  match disk.locate path with
  | .ok place => disk.isDirectoryAt place
  | .error _ => false

/-! ## Reading and writing -/

/-- The text of the file at the end of a path. -/
def readText (disk : Disk) (path : Path) : Except Fault Text := do
  match disk.node? (← disk.locate path) with
  | some (.file content) =>
    match decode? content with
    | some text => .ok text
    | none => .error .invalidEncoding
  | some .directory => .error .isDirectory
  | none => .error .notFound

/-- The disk with something at a place. -/
def put (disk : Disk) (place : Place) (node : Node) : Disk :=
  { disk with nodes := (place, node) :: disk.nodes.filter fun entry => entry.1 != place }

/-- The last name of a list of parts, and the parts before it. -/
def splitLast (parts : List Text) : List Text × Text :=
  (parts.dropLast, parts.getLast?.getD [])

/-- Does the part name something, rather than lead somewhere? -/
def isName (part : Text) : Bool :=
  !(part == [] || part == ['.'] || part == ['.', '.'])

/-- Writes a text to the file at the end of a path, which is made if need be. -/
def writeText (disk : Disk) (path : Path) (text : Text) : Except Fault Disk := do
  checkPath path
  let (front, name) := splitLast (Path.parts path)
  let parent ← disk.enter (← disk.followAll (disk.start path) front)
  if isName name then
    let there ← child parent name
    if disk.isDirectoryAt there then .error .isDirectory
    else .ok (disk.put there (.file (encode text)))
  else .error .isDirectory

/-! ## Making directories -/

/-- The parts of a path without slashes at its end. -/
def trimmedParts (path : Path) : List Text :=
  ((Path.parts path).reverse.dropWhile List.isEmpty).reverse

/-- Makes the directory at the end of a path.  Nothing may be there yet, and the
    directory that it is to be in must exist. -/
def makeDirectory (disk : Disk) (path : Path) : Except Fault Disk := do
  checkPath path
  let (front, name) := splitLast (trimmedParts path)
  let parent ← disk.enter (← disk.followAll (disk.start path) front)
  if isName name then
    let there ← child parent name
    if (disk.node? there).isSome then .error .alreadyExists
    else .ok (disk.put there .directory)
  else .error .alreadyExists

/-- The outcome of trying to make a directory and its ancestors bottom up: the
    disk, and the paths that are still to be made, outermost first. -/
def makeInnermost (disk : Disk) : Nat → Path → List Path → Except Fault (Disk × List Path)
  | 0, _, pending => .ok (disk, pending)
  | fuel + 1, path, pending =>
    match Path.parent? path with
    | none => .ok (disk, pending)
    | some parent =>
      match disk.makeDirectory path with
      | .ok disk => .ok (disk, pending)
      | .error .notFound => disk.makeInnermost fuel parent (path :: pending)
      | .error .alreadyExists =>
        if disk.hasDirectory path then .ok (disk, pending) else .error .alreadyExists
      | .error fault => .error fault

/-- Makes a directory that may be there already. -/
def ensureDirectory (disk : Disk) (path : Path) : Except Fault Disk :=
  match disk.makeDirectory path with
  | .ok disk => .ok disk
  | .error .alreadyExists =>
    if disk.hasDirectory path then .ok disk else .error .alreadyExists
  | .error fault => .error fault

/-- **Making directories.**  Makes the directory at the end of a path and those
    that it is in, as far as they do not exist.  What was made before a fault
    stays. -/
def makeDirectories (disk : Disk) (path : Path) : Disk × Except Fault Unit :=
  match disk.makeInnermost (path.length + 1) path [] with
  | .error fault => (disk, .error fault)
  | .ok (disk, pending) =>
    pending.foldl
      (fun (disk, outcome) path =>
        match outcome with
        | .error fault => (disk, .error fault)
        | .ok () =>
          match disk.ensureDirectory path with
          | .ok disk => (disk, .ok ())
          | .error fault => (disk, .error fault))
      (disk, .ok ())

end Disk

end Casebook.Files
