import Casebook.Sample
import Casebook.Proofs.Book.Submit
import Casebook.Proofs.Script.Kept
import Casebook.Proofs.Text.Ending

/-! # Searching

    The helper `Sample.search` declares a step in two parts.  It can be called at any
    moment of a script, and its step is always accepted (`Sample.search_accepted`).

    * The instruction leaves a step that waits for its question and has a text, so the
      question is attached (`Outline.exists_ask_instruct`).
    * A question about a quoted term keeps its quote and its mark, whatever the term
      is (`Text.question_quoted`).  Its normal form is that of the words up to the
      quote, with the mark apart.
-/

namespace Casebook

namespace Text

/-- Nothing in front of a final quote reaches over it: the quote stays the last
    character, and the mark is set apart from it. -/
theorem question_quoted (front : Text) :
    spaceQuotedEnd (normalize (front ++ ['"', '?'])) =
      normalize (front ++ ['"']) ++ [' ', '?'] := by
  have hquote : isBlank '"' = false := by decide
  have hmark : isBlank '?' = false := by decide
  have hquoted : normalize (front ++ ['"']) = trimStart (collapse (embedFiles front)) ++ ['"'] := by
    rw [normalize, embedFiles_append (by decide) (by decide), squeeze_concat hquote]
  have hasked : normalize (front ++ ['"', '?']) =
      trimStart (collapse (embedFiles front)) ++ ['"', '?'] := by
    have hcut : embedFiles front ++ ['"', '?'] = (embedFiles front ++ ['"']) ++ ['?'] := by simp
    rw [normalize, embedFiles_append (by decide) (by decide), hcut, squeeze_concat hmark,
      collapse_append_cons hquote, trimStart_append_cons hquote]
    simp [collapse]
  rw [hquoted, hasked]
  simp [spaceQuotedEnd]

/-- Behind any other character the mark stays where it is. -/
theorem spaceQuotedEnd_concat {c : Char} (hc : c ≠ '"') (front : Text) :
    spaceQuotedEnd (front ++ [c, '?']) = front ++ [c, '?'] := by
  rcases spaceQuotedEnd_cases (front ++ [c, '?']) with ⟨front', htext, -⟩ | hsame
  · have hends := (List.append_inj' htext rfl).2
    exact absurd (List.cons.inj hends).1 hc
  · exact hsame

/-- Words without braces stay as they are when they stand in a row already. -/
theorem normalize_joinWith {list : List Text} (h : ∀ word ∈ list, word ≠ [] ∧ Solid word)
    (hopen : ∀ word ∈ list, openBrace ∉ word) :
    normalize (joinWith [' '] list) = joinWith [' '] list := by
  have hjoined : openBrace ∉ joinWith [' '] list := by
    intro hmem
    rcases mem_joinWith hmem with hmem | ⟨word, hword, hmem⟩
    · revert hmem
      decide
    · exact hopen word hword hmem
  rw [normalize, embedFiles_eq_self hjoined, squeeze, words_joinWith_space h]

end Text

namespace Outline

theorem length_instruct_le (outline : Outline) (text : Text) :
    (outline.instruct text).steps.length ≤ outline.steps.length + 1 := by
  rcases instruct_cases outline text with ⟨-, hinstruct⟩ | ⟨front, last, rfl, -, hinstruct⟩
  · rw [hinstruct]
    simp [push]
  · rw [hinstruct]
    simp [push]

/-- **A question finds the instruction before it**, whatever was declared before. -/
theorem exists_ask_instruct (outline : Outline) (instruction question : Text) :
    ∃ front last, outline.instruct instruction = push front last ∧
      (outline.instruct instruction).ask question =
        .ok (front.push { last with question := Marker.strip question }) := by
  rcases instruct_cases outline instruction with
    ⟨-, hinstruct⟩ | ⟨front, last, -, hopen, hinstruct⟩
  · refine ⟨outline, Step.extend {} instruction, hinstruct, ?_⟩
    rw [hinstruct, ask_push]
    rfl
  · refine ⟨front, last.extend instruction, hinstruct, ?_⟩
    rw [hinstruct, ask_push]
    simp [Step.extend, Step.isOpen, hopen]

end Outline

namespace Sample

variable {ρ : Type} {heading : Heading}

/-- The question that checks an expectation, as it is committed. -/
def Expectation.committed : Expectation → Text
  | .count n => "Do you see exactly ".toList ++ Text.decimal n ++ " search results?".toList
  | .titled title =>
    Text.normalize ("Do you see a search result labelled \"".toList ++ title ++ ['"']) ++
      " ?".toList

theorem strip_question (expectation : Expectation) :
    Marker.strip expectation.question = expectation.question := by
  have hfirst : ∃ rest, expectation.question = 'D' :: rest := by
    cases expectation with
    | count n => exact ⟨_, rfl⟩
    | titled title => exact ⟨_, rfl⟩
  obtain ⟨rest, hquestion⟩ := hfirst
  rw [hquestion]
  exact Marker.strip_of_not_starts (Marker.starts_cons_of_not_letter (by decide) (by decide) rest)

/-- The words of the question about a number of results. -/
def countWords (n : Nat) : List Text :=
  ["Do".toList, "you".toList, "see".toList, "exactly".toList, Text.decimal n, "search".toList,
    "results?".toList]

theorem question_count (n : Nat) :
    Expectation.question (.count n) = Text.joinWith [' '] (countWords n) := by
  unfold Expectation.question countWords
  simp only [Text.joinWith_cons_cons, Text.joinWith_singleton, List.append_assoc]
  rfl

theorem of_mem_countWords {n : Nat} {word : Text} (h : word ∈ countWords n) :
    (word ≠ [] ∧ Text.Solid word) ∧ Text.openBrace ∉ word := by
  by_cases hdigits : word = Text.decimal n
  · -- A number is written in digits, and these are neither blanks nor braces.
    subst hdigits
    refine ⟨⟨Text.decimal_ne_nil n, ?_⟩, ?_⟩
    · intro c hc
      exact Text.isBlank_of_isDigit (Text.isDigit_of_mem_decimal hc)
    · intro hmem
      exact absurd (Text.isDigit_of_mem_decimal hmem) (by decide)
  · have hfixed : ∀ other ∈ ["Do".toList, "you".toList, "see".toList, "exactly".toList,
        "search".toList, "results?".toList],
        (other ≠ [] ∧ Text.Solid other) ∧ Text.openBrace ∉ other := by
      decide
    apply hfixed
    simp only [countWords, List.mem_cons, hdigits, false_or] at h ⊢
    exact h

theorem spaceQuotedEnd_question_count (n : Nat) :
    Text.spaceQuotedEnd (Expectation.question (.count n)) = Expectation.question (.count n) := by
  have hend : Expectation.question (.count n) =
      "Do you see exactly ".toList ++ Text.decimal n ++ " search result".toList ++ ['s', '?'] := by
    unfold Expectation.question
    simp only [List.append_assoc]
    rfl
  simp only [hend, Text.spaceQuotedEnd_concat (show 's' ≠ '"' by decide)]

/-- **What is asked for an expectation**, in its final form. -/
theorem spaceQuotedEnd_normalize_question (expectation : Expectation) :
    Text.spaceQuotedEnd (Text.normalize expectation.question) = expectation.committed := by
  cases expectation with
  | count n =>
    have hnormal : Text.normalize (Text.joinWith [' '] (countWords n)) =
        Text.joinWith [' '] (countWords n) :=
      Text.normalize_joinWith (fun _ h => (of_mem_countWords h).1)
        (fun _ h => (of_mem_countWords h).2)
    rw [question_count, hnormal, ← question_count, spaceQuotedEnd_question_count]
    rfl
  | titled title =>
    show Text.spaceQuotedEnd (Text.normalize
      ("Do you see a search result labelled \"".toList ++ title ++ ['"', '?'])) = _
    rw [Text.question_quoted]
    rfl

/-- What is asked for an expectation is a question. -/
theorem asks_committed (expectation : Expectation) :
    expectation.committed.getLast? = some '?' := by
  cases expectation with
  | count n => exact List.getLast?_append_of_ne_nil _ (by decide)
  | titled title => exact List.getLast?_append_of_ne_nil _ (by decide)

/-! ## The step of a search -/

/-- What a search does.  It ends, puts at most one step behind those declared before,
    and changes no finished one.  The last step has the instruction of the search, behind
    what was in it if it was waiting for its question, and the question of the search.
    As it is committed, the step asks for what is expected. -/
structure Searched (before : Outline) (term : Text) (expectation : Expectation)
    (run : Script.Run ρ Unit) : Prop where
  ends : run.outcome = .ok ()
  grows : run.outline.steps.length ≤ before.steps.length + 1
  kept : before.Keeps run.outline
  declared : ∃ front last,
    before.Instructed (searchInstruction term) (Outline.push front last) ∧
      run.outline = front.push { last with question := expectation.question }
  accepted : ∃ last, run.outline.last? = some last ∧
    (Outline.push {} last).commit = .ok [last.normal] ∧
    last.normal.question = expectation.committed

/-- **A search never fails**, whatever steps there are before it, whatever it looks for
    and whatever it expects, and its question is always accepted. -/
theorem search_accepted (before : Outline) (term : Text) (expectation : Expectation) :
    Searched before term expectation
      ((search term expectation : Script ρ Unit).run heading before) := by
  have hinstructed := before.instructed_instruct (searchInstruction term)
  have hlength := before.length_instruct_le (searchInstruction term)
  obtain ⟨front, last, hmiddle, hask⟩ :=
    before.exists_ask_instruct (searchInstruction term) expectation.question
  rw [strip_question] at hask
  have hrun : (search term expectation : Script ρ Unit).run heading before =
      { outcome := .ok (),
        outline := front.push { last with question := expectation.question } } := by
    show Script.run heading (.ask expectation.question _)
      (before.instruct (searchInstruction term)) = _
    rw [Script.run, hask]
    rfl
  have hkept := (before.keeps_instruct (searchInstruction term)).trans (Outline.keeps_ask hask)
  rw [hmiddle] at hinstructed hlength
  rw [hrun]
  refine ⟨rfl, ?_, hkept, ⟨front, last, hinstructed, rfl⟩, ?_⟩
  · simpa [Outline.push] using hlength
  · refine ⟨_, Outline.last?_push front _, ?_, spaceQuotedEnd_normalize_question expectation⟩
    refine Outline.commit_eq_ok_iff.2 ⟨rfl, ?_⟩
    intro step hmem
    rw [List.mem_singleton] at hmem
    rw [hmem, Step.asks, beq_iff_eq]
    show (Text.spaceQuotedEnd (Text.normalize expectation.question)).getLast? = some '?'
    rw [spaceQuotedEnd_normalize_question, asks_committed]

/-- A title with a file in it, and with braces that are open at its end. -/
example :
    let title : Text := "\x7b\x7ba/b.gif\x7d\x7d\"?\n q: \x7b\x7bc/d\x7d".toList
    Text.spaceQuotedEnd (Text.normalize (Expectation.titled title).question) =
      "Do you see a search result labelled \"".toList ++
        "\x7b\x7bfile.screenshot(../a/b.gif)\x7d\x7d\"? q: \x7b\x7bc/d\x7d\" ?".toList := by
  decide +kernel

end Sample

end Casebook
