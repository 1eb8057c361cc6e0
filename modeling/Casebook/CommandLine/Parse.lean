import Casebook.CommandLine.Basic

/-! # Reading command lines

    Arguments are read from left to right.  The value of an option, and the
    values of a run of positional arguments, stay *pending* until something else
    comes: only then are they checked (`State.settle`).  So an unknown option
    wins over a bad value in front of it, while a request for help does not.

    After a double dash all arguments are positional.
-/

namespace Casebook.CommandLine

open Files (Path)

/-! ## State -/

/-- Where an argument stands: in front of the command, or behind it. -/
inductive Scope where
  | top
  | build
  | new
  deriving DecidableEq, Repr

/-- The options with a value. -/
inductive Opt where
  | config
  | out
  deriving DecidableEq, Repr

/-- What was read and not yet checked. -/
inductive Pending where
  | nothing
  | option (opt : Opt) (value : Option Text)
  | groups (names : List Text)
  | count (written : Text)
  deriving DecidableEq, Repr

/-- What was read in a scope. -/
structure State where
  scope : Scope
  config : Option Path := none
  out : Option Path := none
  groups : List Text := []
  count : Option Nat := none
  pending : Pending := .nothing
  deriving DecidableEq, Repr

/-- The number that a count writes: digits behind an optional plus sign, of at
    most 64 bits. -/
def countOf? (written : Text) : Option Nat :=
  match written with
  | '+' :: digits => Text.word64? digits
  | digits => Text.word64? digits

namespace State

/-- The value that an option has already. -/
def value? (state : State) : Opt → Option Path
  | .config => state.config
  | .out => state.out

/-- The state with the value of an option. -/
def withValue (state : State) (opt : Opt) (value : Path) : State :=
  match opt with
  | .config => { state with config := some value }
  | .out => { state with out := some value }

/-- Gives an option its value.  It must have none yet, and the value must not be
    empty. -/
def give (state : State) (opt : Opt) (value : Text) : Except Usage State :=
  if (state.value? opt).isSome then .error .repeatedOption
  else if value.isEmpty then .error .invalidValue
  else .ok (state.withValue opt value)

/-- Checks what is pending. -/
def settle (state : State) : Except Usage State :=
  let settled := { state with pending := .nothing }
  match state.pending with
  | .nothing => .ok settled
  | .option _ none => .error .invalidValue
  | .option opt (some value) => settled.give opt value
  | .groups names => .ok { settled with groups := settled.groups ++ names }
  | .count written =>
    match countOf? written with
    | some count => .ok { settled with count := some count }
    | none => .error .invalidCount

/-- The option that waits for its value. -/
def awaiting? (state : State) : Option Opt :=
  match state.pending with
  | .option opt none => some opt
  | _ => none

/-! ## Arguments -/

/-- Reads an option with a value, which may be attached to it. -/
def takeOption (state : State) (opt : Opt) (attached : Option Text) : Except Usage State := do
  let state ← state.settle
  match attached with
  | some value => state.give opt value
  | none => .ok { state with pending := .option opt none }

/-- Reads a request that ends the reading. -/
def takeRequest (state : State) (request : Usage) : Except Usage State := do
  let _ ← state.settle
  .error request

end State

/-- What an option is. -/
inductive Meaning where
  | option (opt : Opt)
  | request (usage : Usage)
  deriving DecidableEq, Repr

/-- The meaning of a long option in a scope. -/
def longMeaning? (scope : Scope) (name : Text) : Option Meaning :=
  if name = "config".toList then some (.option .config)
  else if name = "help".toList then some (.request .help)
  else if name = "version".toList ∧ scope = .top then some (.request .version)
  else if name = "out".toList ∧ scope = .build then some (.option .out)
  else none

/-- The meaning of a short option in a scope. -/
def shortMeaning? (scope : Scope) (letter : Char) : Option Meaning :=
  if letter = 'h' then some (.request .help)
  else if letter = 'V' ∧ scope = .top then some (.request .version)
  else if letter = 'o' ∧ scope = .build then some (.option .out)
  else none

/-- Reads a long option, from behind its dashes. -/
def takeLong (state : State) (body : Text) : Except Usage State :=
  let attached := match body.dropWhile (· != '=') with
    | [] => none
    | _ :: value => some value
  match longMeaning? state.scope (body.takeWhile (· != '=')), attached with
  | none, _ => .error .unknownArgument
  | some (.option opt), attached => state.takeOption opt attached
  | some (.request request), none => state.takeRequest request
  | some (.request _), some _ => .error .tooManyValues

/-- The value that is attached to a short option, behind an equals sign or
    not. -/
def attachedTo (rest : Text) : Option Text :=
  match rest with
  | [] => none
  | '=' :: value => some value
  | value => some value

/-- Reads short options, from behind their dash. -/
def takeShort (state : State) (letters : Text) : Except Usage State :=
  match letters with
  | [] => .ok state
  | letter :: rest =>
    match shortMeaning? state.scope letter with
    | none => .error .unknownArgument
    | some (.option opt) => state.takeOption opt (attachedTo rest)
    | some (.request request) => state.takeRequest request

/-- The commands by name. -/
def scopeOf? (name : Text) : Option Scope :=
  if name = "build".toList then some .build
  else if name = "new".toList then some .new
  else none

/-- The name of the command that explains the others. -/
def helpName : Text := "help".toList

/-- Is there a command of that name? -/
def isCommand (name : Text) : Bool :=
  (scopeOf? name).isSome || name == helpName

/-- Reads a positional argument. -/
def takePositional (state : State) (argument : Text) (afterDashes : Bool) : Except Usage State :=
  match state.scope with
  | .top =>
    if afterDashes && isCommand argument then .error .unknownArgument else .error .unknownCommand
  | .build =>
    match state.pending with
    | .groups names => .ok { state with pending := .groups (names ++ [argument]) }
    | _ => do
      let state ← state.settle
      .ok { state with pending := .groups [argument] }
  | .new =>
    match state.pending, state.count with
    | .count _, _ | _, some _ => .error .unknownArgument
    | _, none => do
      let state ← state.settle
      .ok { state with pending := .count argument }

/-- Reads an argument that is neither a command nor a double dash. -/
def takeArgument (state : State) (argument : Text) : Except Usage State :=
  match argument with
  | '-' :: '-' :: body => takeLong state body
  | '-' :: letter :: rest => takeShort state (letter :: rest)
  | _ =>
    match state.awaiting? with
    | some opt => .ok { state with pending := .option opt (some argument) }
    | none => takePositional state argument false

/-! ## Scopes -/

/-- Reads the arguments behind a command. -/
def readBehind (state : State) : List Text → Except Usage State
  | [] => state.settle
  | argument :: rest =>
    if argument = "--".toList then do
      let state ← rest.foldlM (fun state argument => takePositional state argument true) state
      state.settle
    else do
      let state ← takeArgument state argument
      readBehind state rest

/-- What help is asked for. -/
def readHelp (topic : List Text) : Usage :=
  match topic with
  | [] => .help
  | [name] => if isCommand name then .help else .unknownCommand
  | _ => .unknownCommand

/-- The command that was read, with the configuration given in front of it. -/
def State.commandLine (state : State) (outer : Option Path) (command : Command) : CommandLine where
  config := (state.config.or outer).getD Configuration.defaultFile
  command

/-- The command that a scope's arguments make. -/
def State.command (state : State) : Command :=
  match state.scope with
  | .new => .new (state.count.getD defaultCount)
  | _ => .build state.groups (state.out.getD defaultOut)

/-- How reading ends when there is no command. -/
def withoutCommand (state : State) : Usage :=
  match state.settle with
  | .error usage => usage
  | .ok state => if state.config.isSome then .missingCommand else .nothingGiven

/-- Reads the arguments from the front, up to the command and all behind it. -/
def readTop (state : State) : List Text → Except Usage CommandLine
  | [] => .error (withoutCommand state)
  | argument :: rest =>
    if state.awaiting?.isNone ∧ argument = helpName then .error (readHelp rest)
    else
      match if state.awaiting?.isNone then scopeOf? argument else none with
      | some scope => do
        let inner ← readBehind { scope } rest
        let outer ← state.settle
        .ok (inner.commandLine outer.config inner.command)
      | none =>
        if argument = "--".toList then
          match rest with
          | [] => .error (withoutCommand state)
          | argument :: _ => do
            let _ ← takePositional state argument true
            .error (withoutCommand state)
        else do
          let state ← takeArgument state argument
          readTop state rest

/-- **Reading.**  The command line that arguments make, or why they make
    none. -/
def parse (arguments : List Text) : Except Usage CommandLine :=
  readTop { scope := .top } arguments

end Casebook.CommandLine
