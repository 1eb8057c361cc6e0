import Casebook.Configuration.Load

/-! # Command lines

    The program has two commands: `build`, for named groups or all of them, and
    `new`, for a number of stubs.  Where the configuration is can be given in
    front of the command or behind it.
-/

namespace Casebook

open Files (Path)

/-- What the program is to do. -/
inductive Command where
  /-- save the cases of some groups in a directory; of all, if none is named -/
  | build (groups : List Text) (out : Path)
  /-- print stubs for new cases -/
  | new (count : Nat)
  deriving DecidableEq, Repr

/-- A command line that was understood. -/
structure CommandLine where
  config : Path
  command : Command
  deriving DecidableEq, Repr

/-- Why a command line leads to no command. -/
inductive Usage where
  /-- help was asked for -/
  | help
  /-- the version was asked for -/
  | version
  /-- nothing was given at all -/
  | nothingGiven
  /-- there is no command -/
  | missingCommand
  /-- there is no such command -/
  | unknownCommand
  /-- there is no such option, or an argument too many -/
  | unknownArgument
  /-- an option has no value, or an empty one -/
  | invalidValue
  /-- a value was given to something that takes none -/
  | tooManyValues
  /-- an option was given twice -/
  | repeatedOption
  /-- a count is no number -/
  | invalidCount
  deriving DecidableEq, Repr

/-- The exit code of a run that does not get to a command. -/
def Usage.exitCode : Usage → Nat
  | .help | .version => 0
  | _ => 2

namespace CommandLine

/-- The directory that cases are saved in when none is given. -/
def defaultOut : Path := "output".toList

/-- The number of stubs when none is given. -/
def defaultCount : Nat := 1

end CommandLine

end Casebook
