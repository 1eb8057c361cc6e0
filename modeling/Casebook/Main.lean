import Casebook.Program
import Casebook.Sample

/-! # The executable

    Runs the program for the sample suite.  All that is done here is to read the
    configuration file, to draw random bytes, to write files and to print.
-/

namespace Casebook.Main

open Files (Path)
open Program (Ending)

/-- The fault that a failed file operation stands for. -/
def faultOf : IO.Error → Files.Fault
  | .noFileOrDirectory .. => .notFound
  | .alreadyExists .. => .alreadyExists
  | .inappropriateType _ code _ => if code = 20 then .notDirectory else .isDirectory
  | fault => .other fault.toString.toList

/-- Does the fault mean that nothing is at the path? -/
def meansAbsent (fault : Files.Fault) : Bool :=
  fault == .notFound || fault == .notDirectory

/-- The content of a file, if there is one. -/
def readContent (path : Path) : IO (Option (Except Files.Fault Text)) := do
  try
    let bytes ← IO.FS.readBinFile (String.ofList path)
    match Files.decode? bytes with
    | some text => return some (.ok text)
    | none => return some (.error .invalidEncoding)
  catch fault =>
    let cause := faultOf fault
    return if meansAbsent cause then none else some (.error cause)

/-- Saves cases to a directory. -/
def save (directory : Path) (cases : List Case) : IO (Except Fault (List Path)) := do
  try
    unless cases.isEmpty do
      IO.FS.createDirAll (String.ofList directory)
    let mut written := []
    for c in cases do
      let path := c.savePath directory
      IO.FS.writeBinFile (String.ofList path) (Files.encode c.render)
      written := written ++ [path]
    return .ok written
  catch fault => return .error (.file (faultOf fault))

/-- Prints what a run ends with. -/
def finish (ending : Ending) : IO UInt32 := do
  IO.print (String.ofList ending.stdout)
  IO.eprint (String.ofList ending.stderr)
  return UInt32.ofNat ending.exitCode

/-- Fresh ids for new cases, by their number. -/
def freshIds (count : Nat) : IO (Nat → Text) := do
  let mut ids : Array Text := #[]
  for _ in [0:count] do
    ids := ids.push (Stub.identifier (← IO.getRandomBytes 16).toList)
  let drawn := ids
  return fun number => drawn.getD (number - 1) []

/-- How the program is called. -/
def usage : String :=
  "usage: rfml [--config FILE] build [GROUP...] [-o DIR]\n       rfml [--config FILE] new [COUNT]"

/-- Runs a command line that was understood. -/
def runCommand (commandLine : CommandLine) : IO UInt32 := do
  let content ← readContent commandLine.config
  let loaded := (Configuration.ofContent commandLine.config content).map Prod.fst
  let count := match commandLine.command with
    | .new count => count
    | .build .. => 0
  match Program.plan loaded commandLine (Sample.suite : Suite Unit) (← freshIds count) with
  | .finish ending => finish ending
  | .save directory cases => finish (.saved directory (← save directory cases))

end Casebook.Main

/-- Reads the arguments and runs the command. -/
def main (arguments : List String) : IO UInt32 := do
  match Casebook.CommandLine.parse (arguments.map String.toList) with
  | .ok commandLine => Casebook.Main.runCommand commandLine
  | .error usage =>
    if usage.exitCode = 0 then IO.println Casebook.Main.usage
    else IO.eprintln Casebook.Main.usage
    return UInt32.ofNat usage.exitCode
