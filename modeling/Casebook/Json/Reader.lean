import Casebook.Json.Problem

/-! # Reading JSON documents

    A reader takes the unread text and gives a value with the text behind it, or
    stops.  Reading is strict and from front to back: the first problem wins.

    Where reading stops is kept as the text that is still unread
    (`Stop.rest`), with the bytes of it that the place counts as well
    (`Stop.ahead`): one byte for a character that was looked at and refused,
    four for the digits of a bad escape.  A problem of a whole array or object
    has no place until the reader has tried to read the closing bracket
    (`Stop.close`).
-/

namespace Casebook.Json

/-- A stop, before its place is worked out. -/
structure Stop where
  problem : Problem
  /-- the unread text -/
  rest : Text
  /-- bytes of the unread text that the place counts too -/
  ahead : Nat := 0
  /-- the place, when the problem brings its own -/
  own : Option Place := none
  /-- is the stop at its final place? -/
  settled : Bool := true
  deriving DecidableEq, Repr

/-- A reader of one kind of value. -/
abbrev Reader (α : Type) : Type :=
  Text → Except Stop (α × Text)

/-- Stops in front of the unread text. -/
def stopAt {α : Type} (problem : Problem) (rest : Text) : Except Stop α :=
  .error { problem, rest }

/-- Stops with the next byte counted. -/
def stopPast {α : Type} (problem : Problem) (rest : Text) : Except Stop α :=
  .error { problem, rest, ahead := 1 }

/-! ## Places -/

/-- The place that many bytes into a text, from a place on. -/
def Place.advance (place : Place) : Nat → Text → Place
  | 0, _ => place
  | _, [] => place
  | bytes + 1, c :: rest =>
    if c = '\n' then advance ⟨place.line + 1, 0⟩ bytes rest
    else if bytes + 1 < c.utf8Size then ⟨place.line, place.column + (bytes + 1)⟩
    else advance ⟨place.line, place.column + c.utf8Size⟩ (bytes + 1 - c.utf8Size) rest

/-- The number of bytes of a text. -/
def byteLength (text : Text) : Nat :=
  text.foldl (fun bytes c => bytes + c.utf8Size) 0

/-- The place of a stop in the document that was read. -/
def Stop.place (stop : Stop) (document : Text) : Place :=
  stop.own.getD <|
    Place.advance ⟨1, 0⟩ (byteLength document - byteLength stop.rest + stop.ahead) document

/-- The fault that a stop makes in the document that was read. -/
def Stop.fault (stop : Stop) (document : Text) : Fault :=
  ⟨stop.problem, stop.place document⟩

/-! ## Blanks and brackets -/

/-- Is the character a blank between tokens? -/
def isSpace (c : Char) : Bool :=
  c == ' ' || c == '\n' || c == '\t' || c == '\r'

/-- The text from its next token. -/
def skipSpace (text : Text) : Text :=
  text.dropWhile isSpace

/-- The two kinds of brackets. -/
inductive Bracket where
  /-- of an array -/
  | list
  /-- of an object -/
  | object
  deriving DecidableEq, Repr

/-- The opening bracket. -/
def Bracket.opening : Bracket → Char
  | .list => '['
  | .object => '\x7b'

/-- The closing bracket. -/
def Bracket.closing : Bracket → Char
  | .list => ']'
  | .object => '\x7d'

/-- The document ends within these brackets. -/
def Bracket.ends : Bracket → Problem
  | .list => .endInList
  | .object => .endInObject

/-- A member is followed by neither a comma nor the closing bracket. -/
def Bracket.expected : Bracket → Problem
  | .list => .expectedListCommaOrEnd
  | .object => .expectedObjectCommaOrEnd

/-- The problem of a further comma where the closing bracket is due. -/
def Bracket.surplusComma (bracket : Bracket) (rest : Text) : Problem :=
  match bracket with
  | .object => .trailingComma
  | .list => if (skipSpace rest).head? = some ']' then .trailingComma else .trailingCharacters

/-- What is unread after a further comma where the closing bracket is due. -/
def Bracket.afterSurplusComma (bracket : Bracket) (rest : Text) : Text :=
  match bracket with
  | .object => ',' :: rest
  | .list => skipSpace rest

/-- Reads the closing bracket. -/
def close (bracket : Bracket) (text : Text) : Except Stop Text :=
  match skipSpace text with
  | [] => stopAt bracket.ends []
  | c :: rest =>
    if c = bracket.closing then .ok rest
    else if c = ',' then
      stopPast (bracket.surplusComma rest) (bracket.afterSurplusComma rest)
    else stopPast .trailingCharacters (c :: rest)

/-- A stop inside brackets, as it leaves them: one that has no place yet gets
    it behind the closing bracket, when that is next. -/
def Stop.close (stop : Stop) (bracket : Bracket) : Stop :=
  if stop.settled then stop
  else
    match skipSpace stop.rest with
    | c :: rest =>
      if c = bracket.closing then { stop with rest, settled := true }
      else { stop with rest := c :: rest, settled := true }
    | [] => { stop with rest := [], settled := true }

/-- Reads the members between brackets, the opening one being read, and then the
    closing one. -/
def between {α : Type} (bracket : Bracket) (members : Reader α) : Reader α :=
  fun text =>
    match members text with
    | .error stop => .error (stop.close bracket)
    | .ok (value, rest) => (close bracket rest).map fun rest => (value, rest)

/-! ## Members -/

/-- Goes to the next element of an array: `true` in front of an element, `false`
    in front of the closing bracket. -/
def nextElement (first : Bool) : Reader Bool := fun text =>
  match skipSpace text with
  | [] => stopAt .endInList []
  | c :: rest =>
    if c = ']' then .ok (false, c :: rest)
    else if first then .ok (true, c :: rest)
    else if c = ',' then
      match skipSpace rest with
      | [] => stopAt .endInValue []
      | c :: rest =>
        if c = ']' then stopPast .trailingComma (c :: rest) else .ok (true, c :: rest)
    else stopPast .expectedListCommaOrEnd (c :: rest)

/-- Goes to the next entry of an object: `true` behind the quote that opens its
    key, `false` in front of the closing brace. -/
def nextEntry (first : Bool) : Reader Bool := fun text =>
  match skipSpace text with
  | [] => stopAt .endInObject []
  | c :: rest =>
    if c = '\x7d' then .ok (false, c :: rest)
    else if first then
      if c = '"' then .ok (true, rest) else stopPast .keyMustBeString (c :: rest)
    else if c = ',' then
      match skipSpace rest with
      | [] => stopAt .endInValue []
      | c :: rest =>
        if c = '"' then .ok (true, rest)
        else if c = '\x7d' then stopPast .trailingComma (c :: rest)
        else stopPast .keyMustBeString (c :: rest)
    else stopPast .expectedObjectCommaOrEnd (c :: rest)

/-- Reads the colon between a key and its value. -/
def colon (text : Text) : Except Stop Text :=
  match skipSpace text with
  | [] => stopAt .endInObject []
  | c :: rest => if c = ':' then .ok rest else stopPast .expectedColon (c :: rest)

/-! ## Problems of whole arrays and objects -/

/-- A stop for a problem of the array or object around the unread text. -/
def stopWithin {α : Type} (problem : Problem) (rest : Text) : Except Stop α :=
  .error { problem, rest, settled := false }

/-- Cuts a text at the last occurrence of a piece. -/
def cutLast? (piece : Text) : Text → Option (Text × Text)
  | [] => none
  | c :: rest =>
    match cutLast? piece rest with
    | some (before, after) => some (c :: before, after)
    | none => (Text.dropPiece? piece (c :: rest)).map fun after => ([], after)

/-- A reason that ends with the words that name a place, cut into what comes
    before and the place. -/
def Place.ofReason? (reason : Text) : Option (Text × Place) := do
  let (before, after) ← cutLast? " at line ".toList reason
  let line ← Text.word64? (after.takeWhile Char.isDigit)
  let digits ← Text.dropPiece? " column ".toList (after.dropWhile Char.isDigit)
  let column ← Text.word64? digits
  return (before, ⟨line, column⟩)

/-- A stop for a reason of the reader's own.  A reason that names a place has
    that place; line zero names none. -/
def refuse {α : Type} (reason : Text) (rest : Text) : Except Stop α :=
  match Place.ofReason? reason with
  | none => stopWithin (.refused reason) rest
  | some (before, place) =>
    if place.line = 0 then stopWithin (.refused before) rest
    else .error { problem := .refused before, rest, own := some place }

end Casebook.Json
