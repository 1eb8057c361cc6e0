import Casebook.Proofs.Text.NormalForm
import Mathlib.Data.List.Chain

/-! # Tidy texts

    A text is tidy when it stands on one line with single spaces between its
    words (`Text.Tidy`).  This is said of the characters and their neighbours
    alone, without a word about how such a text is made.

    * Words joined by a space are tidy, so the normal form of step text is
      (`tidy_normalize`).
    * A question whose mark is set apart stays tidy
      (`Tidy.spaceQuotedEnd`), and then no quote is at its mark
      (`not_suffix_spaceQuotedEnd`).
-/

namespace Casebook.Text

/-- Neither end of the text is blank, it has no blanks but spaces, and no two
    spaces are neighbours. -/
structure Tidy (text : Text) : Prop where
  head : ∀ c ∈ text.head?, isBlank c = false
  last : ∀ c ∈ text.getLast?, isBlank c = false
  spaces : ∀ c ∈ text, isBlank c = true → c = ' '
  apart : text.IsChain fun c d => ¬ (c = ' ' ∧ d = ' ')

theorem tidy_nil : Tidy [] where
  head c h := by cases h
  last c h := by cases h
  spaces c h := by cases h
  apart := .nil

/-- A text without blanks is tidy. -/
theorem tidy_of_solid {text : Text} (h : Solid text) : Tidy text where
  head c hc := h c (List.mem_of_mem_head? hc)
  last c hc := h c (List.mem_of_mem_getLast? hc)
  spaces c hc hblank := by
    rw [h c hc] at hblank
    cases hblank
  apart := by
    rw [List.isChain_iff_forall_rel_of_append_cons_cons]
    intro c d front back htext hspaces
    have hc : isBlank c = false := h c (by simp [htext])
    rw [hspaces.1, isBlank_space] at hc
    cases hc

/-- **Tidy texts with a space between them** are a tidy text, if neither is
    empty. -/
theorem Tidy.append_space {front back : Text} (hfront : Tidy front) (hback : Tidy back)
    (hfrontNe : front ≠ []) (hbackNe : back ≠ []) : Tidy (front ++ ' ' :: back) where
  head c hc := by
    rw [List.head?_append_of_ne_nil _ hfrontNe] at hc
    exact hfront.head c hc
  last c hc := by
    rw [List.getLast?_append_of_ne_nil _ (List.cons_ne_nil _ _),
      List.getLast?_cons_of_ne_nil hbackNe] at hc
    exact hback.last c hc
  spaces c hc hblank := by
    rcases List.mem_append.1 hc with hc | hc
    · exact hfront.spaces c hc hblank
    · rcases List.mem_cons.1 hc with rfl | hc
      · rfl
      · exact hback.spaces c hc hblank
  apart := by
    have hspace : ∀ c, isBlank c = false → c ≠ ' ' := by
      intro c hc heq
      rw [heq, isBlank_space] at hc
      cases hc
    -- The new space has a character that is no blank on either side.
    have hbehind : (' ' :: back).IsChain fun c d => ¬ (c = ' ' ∧ d = ' ') := by
      rw [List.isChain_cons]
      refine ⟨?_, hback.apart⟩
      intro d hd hspaces
      exact hspace d (hback.head d hd) hspaces.2
    refine List.isChain_append.2 ⟨hfront.apart, hbehind, ?_⟩
    intro c hc d _ hspaces
    exact hspace c (hfront.last c hc) hspaces.1

/-- Words joined by a space are tidy. -/
theorem tidy_joinWith {list : List Text} (h : ∀ word ∈ list, word ≠ [] ∧ Solid word) :
    Tidy (joinWith [' '] list) := by
  induction list with
  | nil => exact tidy_nil
  | cons word rest ih =>
    obtain ⟨hne, hsolid⟩ := h word (by simp)
    cases rest with
    | nil =>
      rw [joinWith_singleton]
      exact tidy_of_solid hsolid
    | cons next rest =>
      have hrest : ∀ other ∈ next :: rest, other ≠ [] ∧ Solid other := by
        intro other hmem
        exact h other (List.mem_cons_of_mem word hmem)
      have hjoined : joinWith [' '] (next :: rest) ≠ [] := by
        intro hnil
        exact List.cons_ne_nil _ _ (joinWith_eq_nil (fun other hmem => (hrest other hmem).1) hnil)
      rw [joinWith_cons_cons, List.append_assoc, List.singleton_append]
      exact (tidy_of_solid hsolid).append_space (ih hrest) hne hjoined

theorem tidy_squeeze (text : Text) : Tidy (squeeze text) :=
  tidy_joinWith fun _ h => of_mem_words h

/-- **Step text in normal form is tidy.** -/
theorem tidy_normalize (text : Text) : Tidy (normalize text) :=
  tidy_squeeze (embedFiles text)

/-! ## Questions -/

/-- What stands before the last character of a tidy text is tidy, if no blank is
    at its end. -/
theorem Tidy.of_append {front back : Text} (h : Tidy (front ++ back))
    (hlast : ∀ c ∈ front.getLast?, isBlank c = false) : Tidy front where
  head c hc := h.head c (by
    rw [List.head?_append, Option.mem_def.1 hc]
    rfl)
  last := hlast
  spaces c hc := h.spaces c (List.mem_append_left back hc)
  apart := (List.isChain_append.1 h.apart).1

/-- Setting the mark apart puts one space between two characters that are no
    blanks. -/
theorem Tidy.spaceQuotedEnd {question : Text} (h : Tidy question) :
    Tidy (spaceQuotedEnd question) := by
  rcases spaceQuotedEnd_cases question with ⟨front, rfl, hspaced⟩ | hsame
  · have hquote : isBlank '"' = false := by decide
    have hmark : isBlank '?' = false := by decide
    have hfront : Tidy (front ++ ['"']) := by
      have hcut : front ++ ['"', '?'] = (front ++ ['"']) ++ ['?'] := by simp
      rw [hcut] at h
      exact h.of_append (by simp [hquote])
    have htext : front ++ ['"', ' ', '?'] = (front ++ ['"']) ++ ' ' :: ['?'] := by simp
    rw [hspaced, htext]
    exact hfront.append_space (tidy_of_solid (solid_singleton hmark)) (by simp) (by simp)
  · rwa [hsame]

/-- No quote is left at the question mark. -/
theorem not_suffix_spaceQuotedEnd (question : Text) :
    ¬ ['"', '?'] <:+ Text.spaceQuotedEnd question := by
  intro hsuffix
  rcases spaceQuotedEnd_cases question with ⟨front, -, hspaced⟩ | hsame
  · -- The two last characters are a space and the mark.
    rw [hspaced] at hsuffix
    obtain ⟨before, htext⟩ := hsuffix
    have hcut : before ++ ['"', '?'] = (front ++ ['"']) ++ [' ', '?'] := by simpa using htext
    have hends := (List.append_inj' hcut rfl).2
    exact absurd hends (by decide)
  · -- Nothing changed, although the question ends with a quote and the mark.
    obtain ⟨front, hquestion⟩ := hsuffix
    rw [hsame] at hquestion
    have hspaced : Text.spaceQuotedEnd question = front ++ ['"', ' ', '?'] := by
      rw [← hquestion, Text.spaceQuotedEnd]
      simp
    have hlength := congrArg List.length (hsame.symm.trans hspaced)
    rw [← hquestion] at hlength
    simp at hlength

end Casebook.Text
