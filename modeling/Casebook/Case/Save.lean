import Casebook.Book.Notice
import Casebook.Case.Markup
import Casebook.Files.Disk

/-! # Saving cases

    Each case is written to a file of its own in one directory, which is made if
    there are any cases.  Saving stops at the first fault; what was written
    before it stays.
-/

namespace Casebook

open Files (Disk Path)

/-- The path of the file that a case is saved in. -/
def Case.savePath (directory : Path) (c : Case) : Path :=
  Path.join directory c.fileName

/-- How saving ends: the disk, the paths written in order, and the fault that
    stopped it. -/
structure Saved where
  disk : Disk
  written : List Path := []
  fault? : Option Fault := none

/-- Saves one more case, unless saving has stopped. -/
def Saved.add (directory : Path) (saved : Saved) (c : Case) : Saved :=
  match saved.fault? with
  | some _ => saved
  | none =>
    let path := c.savePath directory
    match saved.disk.writeText path c.render with
    | .ok disk => { disk, written := saved.written ++ [path] }
    | .error cause => { saved with fault? := some (.file cause) }

/-- **Saving.**  Writes cases to a directory. -/
def saveCases (disk : Disk) (directory : Path) (cases : List Case) : Saved :=
  if cases.isEmpty then { disk }
  else
    match disk.makeDirectories directory with
    | (disk, .error cause) => { disk, fault? := some (.file cause) }
    | (disk, .ok ()) => cases.foldl (Saved.add directory) { disk }

/-- The paths written, or the fault that stopped saving. -/
def Saved.result (saved : Saved) : Except Fault (List Path) :=
  match saved.fault? with
  | some fault => .error fault
  | none => .ok saved.written

/-- The notices of the files that were written. -/
def Saved.notices (saved : Saved) : List Notice :=
  saved.written.map .wrote

end Casebook
