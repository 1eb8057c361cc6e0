import Casebook.Proofs.Step.Marks
import Casebook.Proofs.Step.Outline
import Mathlib.Data.List.Forall2

/-! # Combined steps

    A step that is declared in one text takes the lines of that text apart: some
    go to its instruction, and those from one line on to its question.

    * The lines can be cut in one way only (`Step.Cut`, `Step.exists_cut`), and
      this is how the step is made (`Step.Cut.ofText_eq`).
    * Both parts together have the words of the text without its markers, in
      their order (`Step.words_ofText`).
-/

namespace Casebook

open Text Marker

namespace Step

/-! ## The cut -/

/-- The question starts at the first line that begins with a marker, and at the
    last line if there is none. -/
structure Cut (lines front : List Text) (first : Text) (rest : List Text) : Prop where
  lines_eq : lines = front ++ first :: rest
  front_unmarked : ∀ line ∈ front, starts line = false
  first_marked : starts first = true ∨ starts first = false ∧ rest = []

theorem exists_cut {lines : List Text} (h : lines ≠ []) :
    ∃ front first rest, Cut lines front first rest := by
  induction lines with
  | nil => exact absurd rfl h
  | cons line more ih =>
    cases hline : starts line with
    | true => exact ⟨[], line, more, rfl, by simp, Or.inl hline⟩
    | false =>
      cases more with
      | nil => exact ⟨[], line, [], rfl, by simp, Or.inr ⟨hline, rfl⟩⟩
      | cons next more =>
        -- The line goes to the front of the cut of the others.
        obtain ⟨front, first, rest, hcut⟩ := ih (List.cons_ne_nil next more)
        refine ⟨line :: front, first, rest, ?_, ?_, hcut.first_marked⟩
        · rw [hcut.lines_eq, List.cons_append]
        · intro other hmem
          rcases List.mem_cons.1 hmem with rfl | hmem
          · exact hline
          · exact hcut.front_unmarked other hmem

variable {lines front rest : List Text} {first text : Text}

theorem Cut.questionLine_eq (h : Cut lines front first rest) :
    questionLine lines = front.length := by
  rw [questionLine, h.lines_eq, List.findIdx?_append,
    List.findIdx?_eq_none_iff.2 h.front_unmarked, List.findIdx?_cons]
  rcases h.first_marked with hfirst | ⟨hfirst, rfl⟩
  · rw [if_pos hfirst, Option.none_or, Option.map_some, Nat.zero_add, Option.getD_some]
  · simp [hfirst]

theorem Cut.questionLine_lt (h : Cut lines front first rest) :
    questionLine lines < lines.length := by
  rw [h.questionLine_eq, h.lines_eq, List.length_append, List.length_cons]
  omega

/-- **The step that the cut makes.**  Nothing is stripped from the lines of the
    instruction, as none of them begins with a marker. -/
theorem Cut.ofText_eq (h : Cut (split '\n' (trim text)) front first rest) :
    ofText text =
      { instruction := joinWith [' '] front
        question := joinWith [' '] ((first :: rest).map strip) } := by
  unfold ofText
  simp only [h.questionLine_eq]
  rw [h.lines_eq, List.map_append, map_strip h.front_unmarked, List.take_left, List.drop_left]

theorem exists_cut_split (text : Text) :
    ∃ front first rest, Cut (split '\n' (trim text)) front first rest :=
  exists_cut (List.splitOn_ne_nil '\n' (trim text))

/-! ## The words -/

/-- **The words of a combined step** are those of the text without the markers
    that its lines begin with. -/
theorem words_ofText (text : Text) :
    words (ofText text).instruction ++ words (ofText text).question =
      ((split '\n' text).map strip).flatMap words := by
  obtain ⟨front, first, rest, hcut⟩ := exists_cut_split text
  calc words (ofText text).instruction ++ words (ofText text).question
      = front.flatMap words ++ ((first :: rest).map strip).flatMap words := by
        rw [hcut.ofText_eq, words_joinWith isBlank_space, words_joinWith isBlank_space]
    _ = ((split '\n' (trim text)).map strip).flatMap words := by
        rw [hcut.lines_eq, List.map_append, List.flatMap_append, map_strip hcut.front_unmarked]
    _ = ((split '\n' text).map strip).flatMap words := by
        rw [List.flatMap_map, List.flatMap_map]
        exact flatMap_split_trim words_strip_eq rfl text

/-- The first of several lines of a trimmed text has a word. -/
theorem not_blank_of_split_trim {next : Text} (h : split '\n' (trim text) = first :: next :: rest) :
    ¬ Blank first := by
  cases htext : trim text with
  | nil =>
    rw [htext] at h
    cases h
  | cons c body =>
    have hc : isBlank c = false := isBlank_of_trim_eq_cons htext
    have hbreak : c ≠ '\n' := by
      rintro rfl
      cases hc
    obtain ⟨first', rest', hbody⟩ := exists_split_eq_cons '\n' body
    rw [htext, split_cons_of_ne hbreak hbody, List.cons.injEq] at h
    rw [← h.1, blank_cons, hc]
    simp

/-- **The instruction of a combined step is empty if it is blank**: otherwise it
    begins with the first line, which has a word. -/
theorem instruction_ofText_eq_nil_iff :
    (ofText text).instruction = [] ↔ words (ofText text).instruction = [] := by
  constructor
  · intro h
    rw [h]
    rfl
  · intro hwords
    obtain ⟨front, first, rest, hcut⟩ := exists_cut_split text
    rw [hcut.ofText_eq] at hwords ⊢
    cases front with
    | nil => rfl
    | cons line front =>
      exfalso
      obtain ⟨next, more, hmore⟩ : ∃ next more, front ++ first :: rest = next :: more :=
        List.exists_cons_of_ne_nil (by simp)
      have hlines : split '\n' (trim text) = line :: next :: more := by
        rw [hcut.lines_eq, List.cons_append, hmore]
      rw [words_joinWith isBlank_space, List.flatMap_cons, List.append_eq_nil_iff,
        words_eq_nil_iff] at hwords
      exact not_blank_of_split_trim hlines hwords.1

/-! ## What a combined step keeps -/

theorem forall₂_leaves_strip (lines : List Text) : List.Forall₂ Leaves lines (lines.map strip) :=
  List.forall₂_map_right_iff.2 (List.forall₂_same.2 fun line _ => leaves_strip line)

/-- The lines of the trimmed text are cut, within their bounds, into those of the
    instruction and those of the question, which lose their markers; and the
    words are those of the text as it is given, without the markers of its
    lines. -/
structure Combines (text : Text) (step : Step) : Prop where
  inBounds : questionLine (split '\n' (trim text)) < (split '\n' (trim text)).length
  parts : ∃ front first rest bare, Cut (split '\n' (trim text)) front first rest ∧
    front.length = questionLine (split '\n' (trim text)) ∧
    List.Forall₂ Leaves (first :: rest) bare ∧
    step.instruction = joinWith [' '] front ∧ step.question = joinWith [' '] bare ∧
    words step.instruction = front.flatMap words ∧ words step.question = bare.flatMap words
  allWords : ∃ bare, List.Forall₂ Leaves (split '\n' text) bare ∧
    words step.instruction ++ words step.question = bare.flatMap words

end Step

/-- **A combined step loses no words.**  Whatever the outline and the text, the
    earlier steps stay and one step is put behind them.  Its question are the
    lines of the trimmed text from the first one with a marker on, or the last
    line alone, and its instruction the lines before.  The words of both, one
    after the other, are those of the text with nothing but the markers in front
    of its lines removed. -/
theorem Outline.words_add (outline : Outline) (text : Text) :
    ∃ step : Step, (outline.add text).steps = outline.steps ++ [step] ∧
      Step.Combines text step := by
  obtain ⟨front, first, rest, hcut⟩ := Step.exists_cut_split text
  refine ⟨Step.ofText text, rfl, hcut.questionLine_lt, ?_, ?_⟩
  · refine ⟨front, first, rest, (first :: rest).map strip, hcut, hcut.questionLine_eq.symm,
      Step.forall₂_leaves_strip (first :: rest), ?_⟩
    rw [hcut.ofText_eq]
    exact ⟨rfl, rfl, words_joinWith isBlank_space _, words_joinWith isBlank_space _⟩
  · exact ⟨(split '\n' text).map strip, Step.forall₂_leaves_strip _, Step.words_ofText text⟩

/-- Lines of markers, a return and blanks at the ends of lines, and a marker that
    is none because it does not begin its line. -/
example :
    Step.ofText "\n Open it. \r\nq: \nQ.q:\u2003Is Q: on?\n\n".toList =
      { instruction := "Open it. \r".toList, question := " Is Q: on?".toList } := by
  decide +kernel

end Casebook
