import Casebook.Text.Basic

/-! # Blank characters

    The characters that separate words are those with the Unicode property
    `White_Space`.  The controls U+001C to U+001F, the zero-width space and the
    byte order mark do not have it.

    * `Text.trim` removes blanks at both ends.
    * `Text.words` are the maximal stretches without a blank, and
      `Text.squeeze` writes them with one space between neighbours.
-/

namespace Casebook.Text

/-- The code points with the property `White_Space`, as ranges with both ends
    included. -/
def blankRanges : List (Nat × Nat) :=
  [(0x0009, 0x000D), (0x0020, 0x0020), (0x0085, 0x0085), (0x00A0, 0x00A0), (0x1680, 0x1680),
   (0x2000, 0x200A), (0x2028, 0x2029), (0x202F, 0x202F), (0x205F, 0x205F), (0x3000, 0x3000)]

/-- Does the character separate words? -/
def isBlank (c : Char) : Bool :=
  blankRanges.any fun range => range.1 ≤ c.toNat && c.toNat ≤ range.2

/-- The text from its first character that is not blank. -/
def trimStart (text : Text) : Text :=
  text.dropWhile isBlank

/-- The text up to its last character that is not blank. -/
def trimEnd (text : Text) : Text :=
  (text.reverse.dropWhile isBlank).reverse

/-- The text without blanks at its ends. -/
def trim (text : Text) : Text :=
  trimEnd (trimStart text)

/-- The maximal stretches without a blank, in order. -/
def words (text : Text) : List Text :=
  (text.splitOnP isBlank).filter fun word => !word.isEmpty

/-- The words with a single space between neighbours. -/
def squeeze (text : Text) : Text :=
  joinWith [' '] (words text)

theorem trimStart_length_le (text : Text) : (trimStart text).length ≤ text.length :=
  (List.dropWhile_suffix isBlank).length_le

end Casebook.Text
