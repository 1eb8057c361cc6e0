import Casebook.Text.Blank
import Casebook.Text.Reference

/-! # Normal form of step text

    The text of a step may be spread over several lines and name files.  In its
    normal form the files are embedded and the words stand on one line, with a
    single space between them (`Text.normalize`).  A question that ends with a
    quoted term keeps its question mark apart from the quote
    (`Text.spaceQuotedEnd`).
-/

namespace Casebook.Text

/-- Files embedded, blanks at the ends removed, and every other run of blanks
    made one space. -/
def normalize (text : Text) : Text :=
  squeeze (embedFiles text)

/-- The normal form of fragments that are read one after the other. -/
def normalizeFragments (fragments : List Text) : Text :=
  normalize (joinWith [' '] fragments)

/-- A space between a final quote and the question mark after it. -/
def spaceQuotedEnd (question : Text) : Text :=
  match question.reverse with
  | '?' :: '"' :: front => front.reverse ++ ['"', ' ', '?']
  | _ => question

end Casebook.Text
