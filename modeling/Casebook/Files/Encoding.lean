import Casebook.Text.Basic

/-! # Text in files

    Files hold bytes; text is stored as UTF-8.
-/

namespace Casebook.Files

/-- The bytes of a text. -/
def encode (text : Text) : ByteArray :=
  (String.ofList text).toUTF8

/-- The text that bytes encode, if they do. -/
def decode? (bytes : ByteArray) : Option Text :=
  (String.fromUTF8? bytes).map String.toList

theorem fromUTF8?_toUTF8 (s : String) : String.fromUTF8? s.toUTF8 = some s := by
  unfold String.fromUTF8?
  split
  · rfl
  next h => exact absurd s.isValidUTF8 (by simpa using h)

/-- What is stored is read back. -/
theorem decode?_encode (text : Text) : decode? (encode text) = some text := by
  rw [decode?, encode, fromUTF8?_toUTF8, Option.map_some, String.toList_ofList]

end Casebook.Files
