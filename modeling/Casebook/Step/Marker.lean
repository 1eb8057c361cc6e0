import Casebook.Text.Blank

/-! # Question markers

    A line of a step may announce its question: `Q:` or `q.`, in either case of
    the letter, after any blanks.  Several markers may follow each other, with
    or without blanks between them.
-/

namespace Casebook.Marker

open Text (trimStart)

/-- Does the letter begin a marker? -/
def isLetter (c : Char) : Bool :=
  c == 'q' || c == 'Q'

/-- Does the character end a marker? -/
def isStop (c : Char) : Bool :=
  c == ':' || c == '.'

/-- What follows the first marker of a line, when the line begins with one. -/
def after? (line : Text) : Option Text :=
  match trimStart line with
  | letter :: stop :: rest => if isLetter letter && isStop stop then some rest else none
  | _ => none

theorem length_lt_of_after? {line rest : Text} (h : after? line = some rest) :
    rest.length < line.length := by
  have hle := Text.trimStart_length_le line
  simp only [after?] at h
  split at h
  next letter stop rest' hline =>
    split at h
    · obtain rfl : rest' = rest := by simpa using h
      simp only [hline, List.length_cons] at hle
      omega
    · simp at h
  · simp at h

/-- Does the line begin with a marker? -/
def starts (line : Text) : Bool :=
  (after? line).isSome

/-- What is left behind a marker: further markers are removed, and then the
    blanks. -/
def stripMore (rest : Text) : Text :=
  match _h : after? rest with
  | some rest => stripMore rest
  | none => trimStart rest
termination_by rest.length
decreasing_by exact length_lt_of_after? ‹_›

/-- The line without the markers it begins with and the blanks around them.  A
    line that begins with no marker stays as it is. -/
def strip (line : Text) : Text :=
  match after? line with
  | some rest => stripMore rest
  | none => line

theorem strip_of_not_starts {line : Text} (h : starts line = false) : strip line = line := by
  simp only [starts, Option.isSome_eq_false_iff, Option.isNone_iff_eq_none] at h
  simp [strip, h]

end Casebook.Marker
