import Casebook.Text.Basic

/-! # Problems of JSON documents

    A document can break the syntax, or hold a value of another type than its
    reader expects.  `Problem` lists the causes, `Problem.message` has their
    wording, and a `Fault` is a problem with its place in the document.
-/

namespace Casebook.Json

/-- A value of the wrong type, as far as it is reported.  The texts of numbers
    and strings are as they are to be shown. -/
inductive Found where
  | null
  | boolean (value : Bool)
  | integer (shown : Text)
  | floatingPoint (shown : Text)
  | string (shown : Text)
  | sequence
  | map
  deriving DecidableEq, Repr

/-- What is wrong with a document. -/
inductive Problem where
  /-- the document ends where a value is to start, or within a scalar -/
  | endInValue
  /-- the document ends within an array -/
  | endInList
  /-- the document ends within an object -/
  | endInObject
  /-- the document ends within a string -/
  | endInString
  /-- the colon after a key is missing -/
  | expectedColon
  /-- after an element stands neither a comma nor a bracket -/
  | expectedListCommaOrEnd
  /-- after an entry stands neither a comma nor a brace -/
  | expectedObjectCommaOrEnd
  /-- a misspelt `null`, `true` or `false` -/
  | expectedIdent
  /-- no value can start with this character -/
  | expectedValue
  /-- a key that is not a string -/
  | keyMustBeString
  /-- a comma before the closing bracket -/
  | trailingComma
  /-- something follows where nothing may follow -/
  | trailingCharacters
  /-- an unknown escape sequence, or one with bad digits -/
  | invalidEscape
  /-- an escaped surrogate without its partner -/
  | loneSurrogate
  /-- an escaped leading surrogate that no second escape follows -/
  | unexpectedEndOfHexEscape
  /-- an unescaped control character in a string -/
  | controlCharacter
  /-- a malformed number -/
  | invalidNumber
  /-- a number beyond the largest double -/
  | numberOutOfRange
  /-- a value of another type than expected -/
  | wrongType (found : Found) (expected : Text)
  /-- an object without a mandatory field -/
  | missingField (name : Text)
  /-- an object with two fields of one name -/
  | duplicateField (name : Text)
  /-- an array of the wrong length -/
  | invalidLength (length : Nat) (expected : Text)
  /-- a value that its reader refuses for a reason of its own -/
  | refused (reason : Text)
  deriving DecidableEq, Repr

/-- The words between backticks. -/
def backticked (text : Text) : Text :=
  '`' :: text ++ ['`']

/-- What was found, in words. -/
def Found.message : Found → Text
  | .null => "null".toList
  | .boolean true => "boolean ".toList ++ backticked "true".toList
  | .boolean false => "boolean ".toList ++ backticked "false".toList
  | .integer shown => "integer ".toList ++ backticked shown
  | .floatingPoint shown => "floating point ".toList ++ backticked shown
  | .string shown => "string ".toList ++ shown
  | .sequence => "sequence".toList
  | .map => "map".toList

/-- What is wrong, in words. -/
def Problem.message : Problem → Text
  | .endInValue => "EOF while parsing a value".toList
  | .endInList => "EOF while parsing a list".toList
  | .endInObject => "EOF while parsing an object".toList
  | .endInString => "EOF while parsing a string".toList
  | .expectedColon => "expected `:`".toList
  | .expectedListCommaOrEnd => "expected `,` or `]`".toList
  | .expectedObjectCommaOrEnd => "expected `,` or `\x7d`".toList
  | .expectedIdent => "expected ident".toList
  | .expectedValue => "expected value".toList
  | .keyMustBeString => "key must be a string".toList
  | .trailingComma => "trailing comma".toList
  | .trailingCharacters => "trailing characters".toList
  | .invalidEscape => "invalid escape".toList
  | .loneSurrogate => "lone leading surrogate in hex escape".toList
  | .unexpectedEndOfHexEscape => "unexpected end of hex escape".toList
  | .controlCharacter =>
    "control character (\\u0000-\\u001F) found while parsing a string".toList
  | .invalidNumber => "invalid number".toList
  | .numberOutOfRange => "number out of range".toList
  | .wrongType found expected =>
    "invalid type: ".toList ++ found.message ++ ", expected ".toList ++ expected
  | .missingField name => "missing field ".toList ++ backticked name
  | .duplicateField name => "duplicate field ".toList ++ backticked name
  | .invalidLength length expected =>
    "invalid length ".toList ++ Text.decimal length ++ ", expected ".toList ++ expected
  | .refused reason => reason

/-- A place in a document: the line, counted from one, and the number of bytes
    of that line up to the place. -/
structure Place where
  line : Nat
  column : Nat
  deriving DecidableEq, Repr

/-- A problem and its place. -/
structure Fault where
  problem : Problem
  place : Place
  deriving DecidableEq, Repr

/-- The words that name a place. -/
def Place.suffix (place : Place) : Text :=
  " at line ".toList ++ Text.decimal place.line ++ " column ".toList ++ Text.decimal place.column

/-- What is wrong and where, in words. -/
def Fault.message (fault : Fault) : Text :=
  fault.problem.message ++ fault.place.suffix

end Casebook.Json
