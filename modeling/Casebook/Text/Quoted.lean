import Casebook.Text.Visible

/-! # Quoted text

    A text that is shown in a message stands between double quotes.  Quotes and
    backslashes get a backslash, common controls have a letter, and any other
    character that does not show is written as its code point.
-/

namespace Casebook.Text

/-- The code point of a character between braces. -/
def codePoint (c : Char) : Text :=
  "\\u\x7b".toList ++ Nat.toDigits 16 c.toNat ++ "\x7d".toList

/-- A character as it is shown between quotes. -/
def shown (c : Char) : Text :=
  match c with
  | '\x00' => "\\0".toList
  | '\t' => "\\t".toList
  | '\r' => "\\r".toList
  | '\n' => "\\n".toList
  | '\\' => "\\\\".toList
  | '"' => "\\\"".toList
  | c => if isVisible c then [c] else codePoint c

/-- The text between quotes. -/
def quoted (text : Text) : Text :=
  '"' :: text.flatMap shown ++ ['"']

end Casebook.Text
