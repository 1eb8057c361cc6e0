import Casebook.Book.Notice
import Casebook.Configuration.Document
import Casebook.Files.Disk

/-! # Loading a configuration

    A configuration is loaded from a file.  When nothing is at the path, the
    defaults are used.
-/

namespace Casebook.Configuration

open Files (Disk Path)

/-- The path of the configuration when none is given. -/
def defaultFile : Path := "rfconfig.json".toList

/-- The configuration of a file, given its content if there is one, with a
    notice. -/
def ofContent (path : Path) (content : Option (Except Files.Fault Text)) :
    Except Fault (Configuration × Notice) :=
  match content with
  | none => .ok ({}, .usingDefaults path)
  | some (.error cause) => .error (.file cause)
  | some (.ok document) =>
    match ofJson document with
    | .error fault => .error (.json fault)
    | .ok config => .ok (config, .loaded path config.sites.length)

/-- Loads the configuration from a path. -/
def load (disk : Disk) (path : Path) : Except Fault (Configuration × Notice) :=
  ofContent path (if disk.has path then some (disk.readText path) else none)

end Casebook.Configuration
