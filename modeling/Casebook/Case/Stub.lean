import Casebook.Text.Basic

/-! # Stubs

    A stub is the source code that a new case starts from: a registration with
    a fresh id, a numbered title and one tag.
-/

namespace Casebook.Stub

/-- The stub of a new case. -/
def text (id : Text) (number : Nat) (tag : Text) : Text :=
  "\nregistry.register(\"".toList ++ id ++
  "\", \"\n    // title: new test ".toList ++ Text.decimal number ++
  "\n    // tags: ".toList ++ tag ++
  "\n\", |t| \x7b\n    Ok(())\n\x7d);".toList

/-- The stubs of several new cases, numbered from one; the ids are given by
    their number. -/
def several (ids : Nat → Text) (count : Nat) (tag : Text) : List Text :=
  (List.range count).map fun i => text (ids (i + 1)) (i + 1) tag

/-! ## Fresh ids -/

/-- Two lower-case hexadecimal digits. -/
def hexByte (byte : UInt8) : Text :=
  [Nat.digitChar (byte.toNat / 16), Nat.digitChar (byte.toNat % 16)]

/-- The random identifier that sixteen random bytes make: 32 hexadecimal digits
    in five groups, with the digits that mark it as random. -/
def identifier (bytes : List UInt8) : Text :=
  let marked := bytes.mapIdx fun i byte =>
    if i = 6 then (byte &&& 0x0F) ||| 0x40
    else if i = 8 then (byte &&& 0x3F) ||| 0x80
    else byte
  let group (start length : Nat) : Text := ((marked.drop start).take length).flatMap hexByte
  Text.joinWith ['-'] [group 0 4, group 4 2, group 6 2, group 8 2, group 10 6]

end Casebook.Stub
