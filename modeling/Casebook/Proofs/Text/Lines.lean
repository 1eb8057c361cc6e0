import Casebook.Proofs.Text.NormalForm

/-! # Texts on one line

    A text is on one line when it holds no line break (`Text.OneLine`).  Every
    operation on text that a case goes through keeps this, and the normal form
    of step text establishes it (`oneLine_normalize`).
-/

namespace Casebook.Text

/-- The text holds no line break. -/
def OneLine (text : Text) : Prop :=
  '\n' ∉ text

instance (text : Text) : Decidable (OneLine text) :=
  inferInstanceAs (Decidable ('\n' ∉ text))

@[simp] theorem oneLine_nil : OneLine [] := by simp [OneLine]

@[simp] theorem oneLine_append {front back : Text} :
    OneLine (front ++ back) ↔ OneLine front ∧ OneLine back := by
  simp [OneLine]

/-- A text with no other characters than one on one line. -/
theorem OneLine.of_subset {text part : Text} (h : OneLine text) (hsub : part ⊆ text) :
    OneLine part := by
  intro hmem
  exact h (hsub hmem)

/-- Pieces on one line, joined on one line. -/
theorem oneLine_joinWith {separator : Text} {pieces : List Text} (hseparator : OneLine separator)
    (h : ∀ piece ∈ pieces, OneLine piece) : OneLine (joinWith separator pieces) := by
  intro hmem
  rcases mem_joinWith hmem with hmem | ⟨piece, hpiece, hmem⟩
  · exact hseparator hmem
  · exact h piece hpiece hmem

/-- The lines of a text are on one line. -/
theorem oneLine_of_mem_lines {text line : Text} (h : line ∈ split '\n' text) : OneLine line :=
  not_mem_of_mem_split h

/-! ## Parts -/

theorem trim_subset (text : Text) : trim text ⊆ text := by
  intro c hmem
  unfold trim trimEnd at hmem
  have hstart : c ∈ trimStart text :=
    List.mem_reverse.1 ((List.dropWhile_suffix isBlank).subset (List.mem_reverse.1 hmem))
  exact (List.dropWhile_suffix isBlank).subset hstart

/-- A piece of a split is made of characters of the text. -/
theorem subset_of_mem_split {separator : Char} {text piece : Text}
    (h : piece ∈ split separator text) :
    piece ⊆ text := by
  intro c hmem
  rw [← joinWith_split separator text]
  exact mem_joinWith_of_mem h hmem

/-! ## Normal form -/

/-- **Step text in normal form is on one line**, whatever it is made of: a line
    break is a blank, and the only blanks left are spaces. -/
theorem oneLine_normalize (text : Text) : OneLine (normalize text) := by
  intro hmem
  rcases of_mem_normalize hmem with hspace | hblank
  · exact absurd hspace (by decide)
  · exact absurd hblank (by decide)

theorem oneLine_spaceQuotedEnd {question : Text} (h : OneLine question) :
    OneLine (spaceQuotedEnd question) := by
  rcases spaceQuotedEnd_cases question with ⟨front, rfl, hspaced⟩ | hsame
  · rw [hspaced]
    rw [oneLine_append] at h ⊢
    exact ⟨h.1, by decide⟩
  · rwa [hsame]

end Casebook.Text
