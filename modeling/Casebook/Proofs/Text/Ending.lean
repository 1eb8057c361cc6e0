import Casebook.Proofs.Text.NormalForm

/-! # How a text ends

    The last character of a text that is no blank (`Text.lastSolid?`) can be read
    off the text as it is given.  The normal form ends with this character: a
    reference ends with its braces before and after embedding, squeezing removes
    only the blanks behind the character, and a mark that is set apart from a
    quote is still the last one (`getLast?_question`).  So only blank texts have
    an empty normal form (`normalize_eq_nil_iff`).
-/

namespace Casebook.Text

/-- The last character of a text that is no blank. -/
def lastSolid? (text : Text) : Option Char :=
  text.reverse.find? fun c => !isBlank c

theorem lastSolid?_eq (text : Text) : lastSolid? text = (trimEnd text).getLast? := by
  rw [lastSolid?, List.find?_not_eq_head?_dropWhile, trimEnd, List.getLast?_reverse]

/-- Nothing but blanks stands behind the last character that is none. -/
theorem lastSolid?_eq_some_iff {text : Text} {c : Char} :
    lastSolid? text = some c ↔
      ∃ front blanks, text = front ++ c :: blanks ∧ isBlank c = false ∧ Blank blanks := by
  rw [lastSolid?_eq]
  constructor
  · intro hlast
    obtain ⟨front, hfront⟩ := List.getLast?_eq_some_iff.1 hlast
    obtain ⟨blanks, hblanks, htext⟩ := exists_eq_trimEnd_append text
    refine ⟨front, blanks, ?_, isBlank_of_getLast?_trimEnd hlast, hblanks⟩
    rw [htext, hfront, List.append_assoc, List.singleton_append]
  · rintro ⟨front, blanks, rfl, hc, hblanks⟩
    rw [trimEnd_append_cons hc, trimEnd_eq_nil_iff.2 hblanks, List.getLast?_concat]

theorem lastSolid?_eq_none_iff {text : Text} : lastSolid? text = none ↔ Blank text := by
  rw [lastSolid?_eq, List.getLast?_eq_none_iff, trimEnd_eq_nil_iff]

/-- Squeezing keeps a last character that is no blank. -/
theorem squeeze_concat {c : Char} (hc : isBlank c = false) (front : Text) :
    squeeze (front ++ [c]) = trimStart (collapse front) ++ [c] := by
  rw [squeeze_eq_trim_collapse, collapse_append_cons hc, trim, trimStart_append_cons hc]
  exact trimEnd_concat hc _

theorem getLast?_squeeze (text : Text) : (squeeze text).getLast? = lastSolid? text := by
  rcases hlast : lastSolid? text with _ | c
  · rw [squeeze_eq_nil_iff.2 (lastSolid?_eq_none_iff.1 hlast), List.getLast?_nil]
  · obtain ⟨front, blanks, rfl, hc, hblanks⟩ := lastSolid?_eq_some_iff.1 hlast
    have hwords : words (front ++ c :: blanks) = words (front ++ [c]) := by
      rw [← List.singleton_append, ← List.append_assoc, words_append_of_blank hblanks]
    have hsqueeze : squeeze (front ++ c :: blanks) = squeeze (front ++ [c]) :=
      congrArg (joinWith [' ']) hwords
    rw [hsqueeze, squeeze_concat hc, List.getLast?_concat]

/-- Embedding keeps the last character that is no blank. -/
theorem lastSolid?_embedFiles (text : Text) : lastSolid? (embedFiles text) = lastSolid? text := by
  rw [lastSolid?_eq, ← embedFiles_trimEnd, getLast?_embedFiles, lastSolid?_eq]

/-- **Nothing is left of a text in its normal form** exactly when it is blank. -/
theorem normalize_eq_nil_iff {text : Text} : normalize text = [] ↔ Blank text := by
  rw [normalize, squeeze_eq_nil_iff, ← lastSolid?_eq_none_iff, lastSolid?_embedFiles,
    lastSolid?_eq_none_iff]

theorem blank_normalize_iff {text : Text} : Blank (normalize text) ↔ Blank text := by
  rw [← words_eq_nil_iff, normalize, words_squeeze, words_eq_nil_iff, ← squeeze_eq_nil_iff,
    ← normalize, normalize_eq_nil_iff]

theorem getLast?_spaceQuotedEnd (question : Text) :
    (spaceQuotedEnd question).getLast? = question.getLast? := by
  rcases spaceQuotedEnd_cases question with ⟨front, rfl, hspaced⟩ | hsame
  · rw [hspaced, List.getLast?_append, List.getLast?_append]
    rfl
  · rw [hsame]

/-- **A question ends in its final form as it does where it is given.** -/
theorem getLast?_question (text : Text) :
    (spaceQuotedEnd (normalize text)).getLast? = lastSolid? text := by
  rw [getLast?_spaceQuotedEnd, normalize, getLast?_squeeze, lastSolid?_embedFiles]

end Casebook.Text
