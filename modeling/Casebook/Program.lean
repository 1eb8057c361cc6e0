import Casebook.Case.Save
import Casebook.Case.Stub
import Casebook.CommandLine.Parse
import Casebook.Suite

/-! # The program

    A run loads the configuration, carries out the command for a suite, and ends
    with an exit code and two output texts.

    * Exit code 0: done.  `build` prints the path of each file that it wrote,
      `new` prints stubs.
    * Exit code 1: submissions were refused.  Each is reported, and nothing is
      written.
    * Exit code 2: the configuration cannot be loaded, a group is unknown, or
      the files cannot be written.

    What is to be done is decided before anything is written (`Program.plan`).
-/

namespace Casebook.Program

open Files (Disk Path)

variable {ρ : Type}

/-- How a run ends, the disk apart. -/
structure Ending where
  exitCode : Nat
  stdout : Text := []
  stderr : Text := []
  deriving DecidableEq, Repr

/-- A text with the end of its line. -/
def line (text : Text) : Text :=
  text ++ ['\n']

/-- A run that fails, with the reason. -/
def Ending.failed (reason : Text) : Ending where
  exitCode := 2
  stderr := line ("rfml failed: ".toList ++ reason)

/-- The line that reports a refused submission. -/
def failureLine (failure : Failure) : Text :=
  line (failure.id ++ ": ".toList ++ failure.fault.message)

/-- The line behind all reports of refused submissions. -/
def closingLine : Text :=
  line "no tests were built because errors were encountered.".toList

/-- A run that ends because submissions were refused. -/
def Ending.refused (failures : List Failure) : Ending where
  exitCode := 1
  stderr := failures.flatMap failureLine ++ closingLine

/-- What a run is to do once the configuration is loaded. -/
inductive Plan where
  /-- end without touching the disk -/
  | finish (ending : Ending)
  /-- save cases in a directory -/
  | save (directory : Path) (cases : List Case)

/-- What a build comes to. -/
def planBuild (built : Except Fault Build) (out : Path) : Plan :=
  match built with
  | .error fault => .finish (.failed fault.fullMessage)
  | .ok build =>
    if build.book.isSuccessful then .save out build.book.cases
    else .finish (.refused build.book.failures)

/-- The text of stubs, each on lines of its own, with an empty line at the
    end. -/
def stubsText (stubs : List Text) : Text :=
  stubs.flatMap line ++ line []

/-- What the command comes to, given the configuration and the ids of new cases
    by their number. -/
def plan (loaded : Except Fault Configuration) (commandLine : CommandLine) (suite : Suite ρ)
    (ids : Nat → Text) : Plan :=
  match loaded with
  | .error fault =>
    .finish (.failed
      ("failed to load ".toList ++ commandLine.config ++ ": ".toList ++ fault.fullMessage))
  | .ok config =>
    match commandLine.command with
    | .build groups out => planBuild (suite.build config groups) out
    | .new count =>
      .finish
        { exitCode := 0
          stdout := stubsText (Stub.several ids count config.firstSiteTag) }

/-- How a run ends after saving. -/
def Ending.saved (directory : Path) (result : Except Fault (List Path)) : Ending :=
  match result with
  | .ok written => { exitCode := 0, stdout := written.flatMap line }
  | .error fault =>
    .failed ("failed to write tests to ".toList ++ directory ++ ": ".toList ++ fault.fullMessage)

/-- **A run.**  The disk after the run, and how the run ends. -/
def run (disk : Disk) (commandLine : CommandLine) (suite : Suite ρ) (ids : Nat → Text) :
    Disk × Ending :=
  let loaded := (Configuration.load disk commandLine.config).map Prod.fst
  match plan loaded commandLine suite ids with
  | .finish ending => (disk, ending)
  | .save directory cases =>
    let saved := saveCases disk directory cases
    (saved.disk, .saved directory saved.result)

end Casebook.Program
