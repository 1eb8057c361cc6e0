import Casebook.Text.Normal
import Casebook.Proofs.Text.References

/-! # Normal form

    The normal form of step text depends on its words only
    (`normalize_eq_of_words_eq`), and a text in normal form stays as it is
    (`normalize_normalize`).  The same holds of questions, whose mark is set
    apart from a final quote afterwards (`question_normalize`).
-/

namespace Casebook.Text

theorem embedFiles_normalize (text : Text) : embedFiles (normalize text) = normalize text := by
  rw [normalize, embedFiles_squeeze, embedFiles_embedFiles]

theorem squeeze_normalize (text : Text) : squeeze (normalize text) = normalize text :=
  squeeze_squeeze (embedFiles text)

/-- **Normalizing twice is normalizing once.** -/
theorem normalize_normalize (text : Text) : normalize (normalize text) = normalize text := by
  rw [normalize, embedFiles_normalize, squeeze_normalize]

/-- Texts with the same words have the same normal form. -/
theorem normalize_eq_of_words_eq {text other : Text} (h : words text = words other) :
    normalize text = normalize other := by
  have hsqueeze : squeeze text = squeeze other := congrArg (joinWith [' ']) h
  rw [normalize, normalize, ← embedFiles_squeeze, ← embedFiles_squeeze, hsqueeze]

/-- There are no blanks but spaces in a normal form. -/
theorem of_mem_normalize {text : Text} {c : Char} (h : c ∈ normalize text) :
    c = ' ' ∨ isBlank c = false :=
  of_mem_squeeze h

/-! ## The question mark behind a quote -/

/-- Either a space is put between a final quote and the question mark, or
    nothing changes. -/
theorem spaceQuotedEnd_cases (question : Text) :
    (∃ front, question = front ++ ['"', '?'] ∧
        spaceQuotedEnd question = front ++ ['"', ' ', '?']) ∨
      spaceQuotedEnd question = question := by
  unfold spaceQuotedEnd
  split
  next front h =>
    refine Or.inl ⟨front.reverse, ?_, rfl⟩
    rw [← List.reverse_reverse question, h]
    simp
  · exact Or.inr rfl

/-- A question whose mark was set apart ends with a space and the mark. -/
theorem spaceQuotedEnd_of_spaced (front : Text) :
    spaceQuotedEnd (front ++ ['"', ' ', '?']) = front ++ ['"', ' ', '?'] := by
  simp [spaceQuotedEnd]

/-- The space before the mark is kept in the normal form. -/
theorem normalize_spaced {front : Text}
    (h : normalize (front ++ ['"', '?']) = front ++ ['"', '?']) :
    normalize (front ++ ['"', ' ', '?']) = front ++ ['"', ' ', '?'] := by
  have hquote : isBlank '"' = false := by decide
  have hmark : isBlank '?' = false := by decide
  -- No reference reaches into the last characters.
  have hembed : embedFiles front = front := by
    have h' := embedFiles_normalize (front ++ ['"', '?'])
    rw [h, embedFiles_append (by decide) (by decide)] at h'
    exact List.append_cancel_right h'
  -- Squeezing works on the front alone, as a word ends after it in both texts.
  have hsqueeze (tail : Text) (c : Char) (hc : isBlank c = false)
      (htail : collapse (tail ++ [c]) = tail ++ [c]) :
      squeeze (front ++ '"' :: (tail ++ [c])) =
        trimStart (collapse front) ++ '"' :: (tail ++ [c]) := by
    rw [squeeze_eq_trim_collapse, collapse_append_cons hquote, htail, trim,
      trimStart_append_cons hquote, ← List.cons_append, ← List.append_assoc, trimEnd_concat hc]
  have hfront : trimStart (collapse front) = front := by
    have h' := squeeze_normalize (front ++ ['"', '?'])
    rw [h] at h'
    exact List.append_cancel_right ((hsqueeze [] '?' hmark (by decide)).symm.trans h')
  have hspaced := hsqueeze [' '] '?' hmark (by decide)
  rw [hfront] at hspaced
  rw [normalize, embedFiles_append (by decide) (by decide), hembed]
  exact hspaced

/-- **A question in its final form** stays as it is. -/
theorem question_normalize (text : Text) :
    spaceQuotedEnd (normalize (spaceQuotedEnd (normalize text))) =
      spaceQuotedEnd (normalize text) := by
  rcases spaceQuotedEnd_cases (normalize text) with ⟨front, htext, hspaced⟩ | hsame
  · -- The space that is put in stays in the normal form, and then no quote is at the mark.
    have hnormal : normalize (front ++ ['"', '?']) = front ++ ['"', '?'] := by
      rw [← htext, normalize_normalize]
    rw [hspaced, normalize_spaced hnormal, spaceQuotedEnd_of_spaced]
  · rw [hsame, normalize_normalize, hsame]

end Casebook.Text
