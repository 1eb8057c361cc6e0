import Casebook.Json.Skip
import Casebook.Text.Quoted

/-! # Values of a type

    Readers for the kinds of value that a configuration holds.  A value of
    another kind is reported with what was found, and the place behind it; for
    an array or an object the place is in front of its bracket.
-/

namespace Casebook.Json

/-- Reads a value of any type for a report.  Of an array or an object nothing
    is read. -/
def readFound : Reader Found := fun text =>
  match text with
  | [] => stopAt .endInValue []
  | 'n' :: rest => (readWord "ull".toList rest).map fun rest => (.null, rest)
  | 't' :: rest => (readWord "rue".toList rest).map fun rest => (.boolean true, rest)
  | 'f' :: rest => (readWord "alse".toList rest).map fun rest => (.boolean false, rest)
  | '"' :: rest => (readString rest).map fun read => (.string (Text.quoted read.1), read.2)
  | c :: rest =>
    if c = Bracket.list.opening then .ok (.sequence, text)
    else if c = Bracket.object.opening then .ok (.map, text)
    else if c = '-' || c.isDigit then readNumber (c :: rest)
    else stopPast .expectedValue (c :: rest)

/-- Stops at a value of another type than expected. -/
def wrongType {α : Type} (expected : Text) (text : Text) : Except Stop α := do
  let (found, rest) ← readFound text
  stopAt (.wrongType found expected) rest

/-- Reads a string. -/
def readText : Reader Text := fun text =>
  match skipSpace text with
  | [] => stopAt .endInValue []
  | c :: rest => if c = '"' then readString rest else wrongType "a string".toList (c :: rest)

/-- Reads elements until the closing bracket, at most `fuel` of them. -/
def readElements {α : Type} (element : Reader α) : Nat → Bool → Reader (List α)
  | 0, _, text => .ok ([], text)
  | fuel + 1, first, text => do
    let (more, text) ← nextElement first text
    if more then
      let (head, text) ← element text
      let (tail, text) ← readElements element fuel false text
      .ok (head :: tail, text)
    else .ok ([], text)

/-- Reads an array.  Every element takes a character, so their number is at most
    the length of the text. -/
def readList {α : Type} (element : Reader α) : Reader (List α) := fun text =>
  match skipSpace text with
  | [] => stopAt .endInValue []
  | c :: rest =>
    if c = Bracket.list.opening then
      between .list (readElements element (rest.length + 1) true) rest
    else wrongType "a sequence".toList (c :: rest)

/-- Reads a whole document that holds one value. -/
def readDocument {α : Type} (value : Reader α) (document : Text) : Except Fault α :=
  let read : Except Stop α := do
    let (value, rest) ← value document
    match skipSpace rest with
    | [] => .ok value
    | c :: rest => stopPast .trailingCharacters (c :: rest)
  read.mapError fun stop => stop.fault document

end Casebook.Json
