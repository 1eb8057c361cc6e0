import Casebook.Json.Numbers
import Casebook.Json.Strings

/-! # Skipping values

    The value of an unknown field is skipped: its syntax is checked and nothing
    is kept.  Values may be nested to any depth, so the open brackets are kept
    in a list, innermost first, and each step reads one token.
-/

namespace Casebook.Json

/-- Reads the letters of a word. -/
def readWord : Text → Text → Except Stop Text
  | [], rest => .ok rest
  | _ :: _, [] => stopAt .endInValue []
  | letter :: word, c :: rest =>
    if letter = c then readWord word rest else stopPast .expectedIdent (c :: rest)

/-- Skips a value without brackets; the text starts with its first character. -/
def skipScalar (text : Text) : Except Stop Text :=
  match text with
  | [] => stopAt .endInValue []
  | 'n' :: rest => readWord "ull".toList rest
  | 't' :: rest => readWord "rue".toList rest
  | 'f' :: rest => readWord "alse".toList rest
  | '"' :: rest => skipString rest
  | c :: rest =>
    if c = '-' || c.isDigit then skipNumber (c :: rest) else stopPast .expectedValue (c :: rest)

/-- What is due inside the innermost open bracket. -/
inductive Due where
  /-- a value -/
  | value
  /-- the first member or the closing bracket -/
  | first
  /-- a comma or the closing bracket -/
  | more
  deriving DecidableEq, Repr

/-- Reads the key and the colon of an entry. -/
def skipKey (text : Text) : Except Stop Text :=
  match skipSpace text with
  | [] => stopAt .endInObject []
  | c :: rest =>
    if c = '"' then do colon (← skipString rest)
    else stopPast .keyMustBeString (c :: rest)

/-- Goes to the value of a member. -/
def skipToValue (bracket : Bracket) (text : Text) : Except Stop Text :=
  match bracket with
  | .list => .ok text
  | .object => skipKey text

/-- One step: the brackets that are open after it and what is due then. -/
def skipStep (stack : List Bracket) (due : Due) (text : Text) :
    Except Stop ((List Bracket × Due) × Text) :=
  match due, stack with
  | .value, stack =>
    match skipSpace text with
    | [] => stopAt .endInValue []
    | c :: rest =>
      if c = Bracket.list.opening then .ok ((.list :: stack, .first), rest)
      else if c = Bracket.object.opening then .ok ((.object :: stack, .first), rest)
      else (skipScalar (c :: rest)).map fun rest => ((stack, .more), rest)
  | .first, bracket :: outer =>
    match skipSpace text with
    | [] => stopAt bracket.ends []
    | c :: rest =>
      if c = bracket.closing then .ok ((outer, .more), rest)
      else (skipToValue bracket (c :: rest)).map fun rest => ((stack, .value), rest)
  | .more, bracket :: outer =>
    match skipSpace text with
    | [] => stopAt bracket.ends []
    | c :: rest =>
      if c = ',' then (skipToValue bracket rest).map fun rest => ((stack, .value), rest)
      else if c = bracket.closing then .ok ((outer, .more), rest)
      else stopPast bracket.expected (c :: rest)
  | _, [] => .ok (([], .more), text)

/-- Takes steps until no bracket is open and nothing is due, at most `fuel` of
    them. -/
def skipSteps : Nat → List Bracket → Due → Text → Except Stop Text
  | 0, _, _, text => .ok text
  | fuel + 1, stack, due, text =>
    match skipStep stack due text with
    | .error stop => .error stop
    | .ok (([], .more), rest) => .ok rest
    | .ok ((stack, due), rest) => skipSteps fuel stack due rest

/-- Skips a value.  A character opens a bracket and starts a member at most, so
    two steps for each suffice. -/
def skipValue (text : Text) : Except Stop Text :=
  skipSteps (2 * text.length + 1) [] .value text

end Casebook.Json
