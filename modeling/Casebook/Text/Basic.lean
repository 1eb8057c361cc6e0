/-! # Text

    Everything the library reads and writes is a list of characters, so that a
    law about text is an ordinary fact about lists.

    * `Text.joinWith` puts a separator between pieces, `Text.split` cuts at a
      character.
    * `Text.dropPiece?` looks for a piece at the front (`dropPiece?_eq_some_iff`),
      `Text.contains` anywhere (`contains_iff`).
    * `Text.decimal` writes a natural number, `Text.word64?` reads one.
-/

namespace Casebook

/-- A text is its characters, in order. -/
abbrev Text : Type := List Char

namespace Text

/-- The pieces with the separator between neighbours. -/
def joinWith (separator : Text) (pieces : List Text) : Text :=
  separator.intercalate pieces

/-- The pieces between the occurrences of a character: one more piece than
    there are occurrences. -/
def split (separator : Char) (text : Text) : List Text :=
  List.splitOn separator text

/-- What follows a leading piece, when the text starts with that piece. -/
def dropPiece? : Text → Text → Option Text
  | [], text => some text
  | _ :: _, [] => none
  | p :: piece, c :: text => if p = c then dropPiece? piece text else none

/-- Does the piece occur somewhere in the text? -/
def contains (text piece : Text) : Bool :=
  match text with
  | [] => piece.isEmpty
  | c :: rest => piece.isPrefixOf (c :: rest) || contains rest piece

/-- The decimal digits of a number, without leading zeros. -/
def decimal (n : Nat) : Text :=
  Nat.toDigits 10 n

/-- The number that decimal digits write. -/
def digitsValue (digits : Text) : Nat :=
  digits.foldl (fun n digit => n * 10 + (digit.toNat - '0'.toNat)) 0

/-- The number of at most 64 bits that a text writes in decimal digits, of which
    there must be one at least. -/
def word64? (text : Text) : Option Nat :=
  if text.isEmpty || !text.all Char.isDigit then none
  else if digitsValue text < Nat.pow 2 64 then some (digitsValue text)
  else none

theorem dropPiece?_append (piece text : Text) : dropPiece? piece (piece ++ text) = some text := by
  induction piece with
  | nil => rfl
  | cons p piece ih => simp [dropPiece?, ih]

theorem eq_append_of_dropPiece? {piece text rest : Text} (h : dropPiece? piece text = some rest) :
    text = piece ++ rest := by
  fun_induction dropPiece? piece text with
  | case1 text => simpa using h
  | case2 => simp at h
  | case3 piece c text ih => simpa using ih h
  | case4 => simp at h

/-- A piece can be dropped from exactly the texts that continue it. -/
theorem dropPiece?_eq_some_iff {piece text rest : Text} :
    dropPiece? piece text = some rest ↔ text = piece ++ rest :=
  ⟨eq_append_of_dropPiece?, fun h => h ▸ dropPiece?_append piece rest⟩

/-- A text contains a piece exactly when the piece is one of its stretches. -/
theorem contains_iff {text piece : Text} :
    contains text piece = true ↔ ∃ before after, text = before ++ piece ++ after := by
  induction text with
  | nil =>
    simp only [contains, List.isEmpty_iff]
    constructor
    · rintro rfl
      exact ⟨[], [], rfl⟩
    · rintro ⟨before, after, h⟩
      simp_all
  | cons c rest ih =>
    simp only [contains, Bool.or_eq_true, List.isPrefixOf_iff_prefix, ih]
    constructor
    · rintro (⟨after, h⟩ | ⟨before, after, h⟩)
      · exact ⟨[], after, by simpa using h.symm⟩
      · exact ⟨c :: before, after, by simp [h]⟩
    · rintro ⟨before, after, h⟩
      cases before with
      | nil => exact Or.inl ⟨after, by simpa using h.symm⟩
      | cons b before =>
        simp only [List.cons_append, List.cons.injEq] at h
        exact Or.inr ⟨before, after, by simpa using h.2⟩

end Text

end Casebook
