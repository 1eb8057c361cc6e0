import Casebook.Step.Outline
import Casebook.Proofs.Text.NormalForm

/-! # Question markers

    Where markers stand, and what is left of a text without them.

    * A marker is the beginning of the first word of a line
      (`starts_iff_words`), so it does not depend on the spacing, and the normal
      form does not make one (`starts_of_starts_normalize`).
    * What is left of a line by `Marker.strip` begins with no marker
      (`starts_strip`), and lines without markers have none when they are joined
      by blanks (`starts_joinWith`).
    * The words that are left depend on the words of the line only
      (`words_stripMore_eq`), and it does not matter whether lines are stripped
      before or after they are joined (`words_strip_joinWith`).
    * So no question of a step begins with a marker, neither as it is declared
      (`Step.starts_ofText`) nor in its normal form (`Step.starts_normal`).
-/

namespace Casebook

namespace Marker

open Text

theorem isBlank_of_isLetter {c : Char} (h : isLetter c = true) : isBlank c = false := by
  unfold isLetter at h
  rw [Bool.or_eq_true, beq_iff_eq, beq_iff_eq] at h
  rcases h with rfl | rfl <;> decide

theorem isBlank_of_isStop {c : Char} (h : isStop c = true) : isBlank c = false := by
  unfold isStop at h
  rw [Bool.or_eq_true, beq_iff_eq, beq_iff_eq] at h
  rcases h with rfl | rfl <;> decide

/-! ## Where a marker stands -/

/-- What follows the first marker stands behind blanks, a letter and a stop. -/
theorem after?_eq_some_iff {line rest : Text} :
    after? line = some rest ↔ ∃ blanks letter stop, Blank blanks ∧ isLetter letter = true ∧
      isStop stop = true ∧ line = blanks ++ letter :: stop :: rest := by
  constructor
  · intro h
    unfold after? at h
    split at h
    next letter stop rest' hline =>
      split at h
      next hmark =>
        obtain rfl := Option.some.inj h
        rw [Bool.and_eq_true] at hmark
        -- The blanks are those that trimming takes away.
        obtain ⟨blanks, hblanks, htext⟩ := exists_eq_append_trimStart line
        exact ⟨blanks, letter, stop, hblanks, hmark.1, hmark.2, hline ▸ htext⟩
      · cases h
    · cases h
  · rintro ⟨blanks, letter, stop, hblanks, hletter, hstop, rfl⟩
    unfold after?
    rw [trimStart_append_cons (isBlank_of_isLetter hletter), trimStart_eq_nil_iff.2 hblanks]
    simp [hletter, hstop]

/-- A line begins with a marker when only blanks stand before a letter and a
    stop. -/
theorem starts_iff {line : Text} :
    starts line = true ↔ ∃ blanks letter stop rest, Blank blanks ∧ isLetter letter = true ∧
      isStop stop = true ∧ line = blanks ++ letter :: stop :: rest := by
  rw [starts, Option.isSome_iff_exists]
  constructor
  · rintro ⟨rest, h⟩
    obtain ⟨blanks, letter, stop, hline⟩ := after?_eq_some_iff.1 h
    exact ⟨blanks, letter, stop, rest, hline⟩
  · rintro ⟨blanks, letter, stop, rest, hline⟩
    exact ⟨rest, after?_eq_some_iff.2 ⟨blanks, letter, stop, hline⟩⟩

/-- A marker is the beginning of the first word. -/
theorem starts_iff_words {line : Text} :
    starts line = true ↔ ∃ letter stop word rest, isLetter letter = true ∧ isStop stop = true ∧
      words line = (letter :: stop :: word) :: rest := by
  induction line with
  | nil => simp [starts, after?, trimStart, words]
  | cons c line ih =>
    cases hc : isBlank c with
    | true =>
      -- A blank changes neither the trimmed line nor its words.
      have hstart : trimStart (c :: line) = trimStart line := by rw [trimStart_cons, if_pos hc]
      rw [words_cons_of_blank hc, ← ih, starts, starts, after?, after?, hstart]
    | false =>
      have hstart : trimStart (c :: line) = c :: line := by
        rw [trimStart_cons, hc, if_neg Bool.false_ne_true]
      unfold starts after?
      rw [hstart]
      rcases words_cons_of_not_blank hc line with ⟨hgap, h⟩ | ⟨hgap, word, rest, hline, h⟩
      · -- The first word is a single character, so no stop follows it.
        rw [h]
        cases line with
        | nil => simp
        | cons d line =>
          have hd : isStop d = false := by
            cases hstop : isStop d with
            | false => rfl
            | true => simp [startsBlank, isBlank_of_isStop hstop] at hgap
          simp [hd]
      · -- The second character of the word is that of the line.
        rw [h]
        cases line with
        | nil => simp [words] at hline
        | cons d line =>
          have hd : isBlank d = false := by simpa [startsBlank] using hgap
          obtain ⟨word', rfl⟩ : ∃ word', word = d :: word' := by
            rcases words_cons_of_not_blank hd line with ⟨-, h'⟩ | ⟨-, word', rest', -, h'⟩
            · exact ⟨[], (List.cons.inj (hline.symm.trans h')).1⟩
            · exact ⟨word', (List.cons.inj (hline.symm.trans h')).1⟩
          simp

/-- A line that begins with another character than a letter of markers has none. -/
theorem starts_cons_of_not_letter {c : Char} (hblank : isBlank c = false)
    (hletter : isLetter c = false) (line : Text) : starts (c :: line) = false := by
  have hstart : trimStart (c :: line) = c :: line := by
    rw [trimStart_cons, hblank, if_neg Bool.false_ne_true]
  rw [starts, after?, hstart]
  cases line <;> simp [hletter]

theorem starts_eq_of_words_eq {line other : Text} (h : words line = words other) :
    starts line = starts other := by
  rw [Bool.eq_iff_iff, starts_iff_words, starts_iff_words, h]

theorem starts_append {front : Text} (h : starts front = true) (back : Text) :
    starts (front ++ back) = true := by
  obtain ⟨blanks, letter, stop, rest, hblanks, hletter, hstop, rfl⟩ := starts_iff.1 h
  exact starts_iff.2 ⟨blanks, letter, stop, rest ++ back, hblanks, hletter, hstop, by simp⟩

/-- A marker does not reach over a character that is none of its own. -/
theorem starts_of_starts_append_cons {c : Char} (hletter : isLetter c = false)
    (hstop : isStop c = false) {front back : Text} (h : starts (front ++ c :: back) = true) :
    starts front = true ∨ isBlank c = true ∧ starts back = true := by
  obtain ⟨blanks, letter, stop, rest, hblanks, hl, hs, htext⟩ := starts_iff.1 h
  rcases List.append_eq_append_iff.1 htext with ⟨middle, rfl, hback⟩ | ⟨middle, rfl, hback⟩
  · -- The marker stands behind the character, which is one of the blanks before it.
    right
    cases middle with
    | nil =>
      obtain ⟨rfl, -⟩ := List.cons.inj hback
      rw [hl] at hletter
      cases hletter
    | cons d middle =>
      obtain ⟨rfl, rfl⟩ := List.cons.inj hback
      refine ⟨hblanks c (by simp), starts_iff.2 ⟨middle, letter, stop, rest, ?_, hl, hs, rfl⟩⟩
      intro b hb
      exact hblanks b (by simp [hb])
  · -- The marker begins before the character, and then it ends before it.
    left
    match middle, hback with
    | [], hback =>
      obtain ⟨rfl, -⟩ := List.cons.inj hback
      rw [hl] at hletter
      cases hletter
    | [_], hback =>
      obtain ⟨-, hback⟩ := List.cons.inj hback
      obtain ⟨rfl, -⟩ := List.cons.inj hback
      rw [hs] at hstop
      cases hstop
    | d :: e :: middle, hback =>
      obtain ⟨hd, hback⟩ := List.cons.inj hback
      obtain ⟨he, -⟩ := List.cons.inj hback
      exact starts_iff.2 ⟨blanks, letter, stop, middle, hblanks, hl, hs, by rw [hd, he]⟩

/-- A blank between two texts makes no marker. -/
theorem starts_append_cons_of_blank {c : Char} (hc : isBlank c = true) {front back : Text}
    (hfront : starts front = false) (hback : starts back = false) :
    starts (front ++ c :: back) = false := by
  have hletter : isLetter c = false := by
    by_contra h
    rw [Bool.not_eq_false] at h
    rw [isBlank_of_isLetter h] at hc
    cases hc
  have hstop : isStop c = false := by
    by_contra h
    rw [Bool.not_eq_false] at h
    rw [isBlank_of_isStop h] at hc
    cases hc
  -- A marker would be one of the front, or one of the back behind blanks.
  by_contra hmark
  rw [Bool.not_eq_false] at hmark
  rcases starts_of_starts_append_cons hletter hstop hmark with h | ⟨-, h⟩
  · rw [hfront] at h
    cases h
  · rw [hback] at h
    cases h

theorem starts_joinWith {c : Char} (hc : isBlank c = true) {lines : List Text}
    (h : ∀ line ∈ lines, starts line = false) : starts (joinWith [c] lines) = false := by
  induction lines with
  | nil => rfl
  | cons line rest ih =>
    have hline : starts line = false := h line (by simp)
    have hrest : starts (joinWith [c] rest) = false := by
      apply ih
      intro other hmem
      exact h other (List.mem_cons_of_mem line hmem)
    cases rest with
    | nil => rwa [joinWith_singleton]
    | cons next rest =>
      rw [joinWith_cons_cons, List.append_assoc, List.singleton_append]
      exact starts_append_cons_of_blank hc hline hrest

/-- No line of a text behind the first begins with a marker exactly when no
    marker comes behind a line break. -/
theorem starts_tail_split_iff {text : Text} :
    (∀ line ∈ (split '\n' text).tail, starts line = false) ↔
      ∀ front back, text = front ++ '\n' :: back → starts back = false := by
  constructor
  · intro h front back htext
    rw [← joinWith_split '\n' back]
    apply starts_joinWith (by decide)
    intro line hmem
    apply h line
    obtain ⟨first, others, hfront⟩ := exists_split_eq_cons '\n' front
    rw [htext, split_append_cons, hfront]
    exact List.mem_append_right others hmem
  · intro h line hmem
    obtain ⟨front, back, htext⟩ := exists_eq_of_mem_tail_split hmem
    have hback : starts (line ++ back) = false := h front (line ++ back) htext
    by_contra hmark
    rw [Bool.not_eq_false] at hmark
    rw [starts_append hmark] at hback
    cases hback

/-! ## Stripped lines -/

/-- Nothing is stripped from lines without markers. -/
theorem map_strip {lines : List Text} (h : ∀ line ∈ lines, starts line = false) :
    lines.map strip = lines := by
  have hsame : ∀ line ∈ lines, strip line = line := by
    intro line hmem
    exact strip_of_not_starts (h line hmem)
  exact (List.map_congr_left hsame).trans (List.map_id' lines)

theorem starts_stripMore (rest : Text) : starts (stripMore rest) = false := by
  fun_induction stripMore rest with
  | case1 line rest h ih => exact ih
  | case2 rest h =>
    rw [starts, after?, trimStart_trimStart, ← after?, h]
    rfl

/-- **A stripped line begins with no marker.** -/
theorem starts_strip (line : Text) : starts (strip line) = false := by
  unfold strip
  split
  · exact starts_stripMore _
  next h =>
    rw [starts, h]
    rfl

/-! ### The words that are left -/

/-- A marker takes the letter and the stop from the first word, and leaves the
    other words. -/
theorem words_of_after? {line rest : Text} (h : after? line = some rest) :
    ∃ letter stop word others, words line = (letter :: stop :: word) :: others ∧
      words rest = if word = [] then others else word :: others := by
  obtain ⟨blanks, letter, stop, hblanks, hmark, hend, rfl⟩ := after?_eq_some_iff.1 h
  have hletter : isBlank letter = false := isBlank_of_isLetter hmark
  have hstop : isBlank stop = false := isBlank_of_isStop hend
  have hwords : words (blanks ++ letter :: stop :: rest) = words (letter :: stop :: rest) := by
    rw [← words_trimStart, trimStart_append_cons hletter, trimStart_eq_nil_iff.2 hblanks,
      List.nil_append]
  -- The letter and the stop stand in one word, as no blank is between them.
  rcases words_cons_of_not_blank hletter (stop :: rest) with
    ⟨hgap, -⟩ | ⟨-, first, others, htail, hfirst⟩
  · simp [startsBlank, hstop] at hgap
  · rcases words_cons_of_not_blank hstop rest with ⟨-, hrest⟩ | ⟨-, word, others', hword, hrest⟩
    · rw [htail, List.cons.injEq] at hrest
      obtain ⟨rfl, rfl⟩ := hrest
      exact ⟨letter, stop, [], words rest, hwords.trans hfirst, (if_pos rfl).symm⟩
    · rw [htail, List.cons.injEq] at hrest
      obtain ⟨rfl, rfl⟩ := hrest
      have hne : word ≠ [] := (of_mem_words (hword ▸ List.mem_cons_self)).1
      refine ⟨letter, stop, word, others, hwords.trans hfirst, ?_⟩
      rw [hword, if_neg hne]

/-- Behind the markers of lines with the same words stand the same words. -/
theorem words_eq_of_after? {line other rest rest' : Text} (h : words line = words other)
    (hline : after? line = some rest) (hother : after? other = some rest') :
    words rest = words rest' := by
  obtain ⟨letter, stop, word, others, hwords, hrest⟩ := words_of_after? hline
  obtain ⟨letter', stop', word', others', hwords', hrest'⟩ := words_of_after? hother
  rw [hwords, hwords', List.cons.injEq, List.cons.injEq, List.cons.injEq] at h
  obtain ⟨⟨-, -, rfl⟩, rfl⟩ := h
  rw [hrest, hrest']

theorem after?_eq_none_iff {line : Text} : after? line = none ↔ starts line = false := by
  simp [starts]

theorem exists_after?_of_starts {line : Text} (h : starts line = true) :
    ∃ rest, after? line = some rest :=
  Option.isSome_iff_exists.1 h

theorem stripMore_of_after? {line rest : Text} (h : after? line = some rest) :
    stripMore line = stripMore rest := by
  rw [stripMore]
  split
  next rest' h' =>
    rw [h, Option.some.injEq] at h'
    rw [h']
  next h' =>
    rw [h] at h'
    cases h'

theorem stripMore_of_not_starts {line : Text} (h : starts line = false) :
    stripMore line = trimStart line := by
  rw [stripMore]
  split
  next rest h' =>
    rw [after?_eq_none_iff.2 h] at h'
    cases h'
  · rfl

theorem strip_of_starts {line : Text} (h : starts line = true) : strip line = stripMore line := by
  obtain ⟨rest, hafter⟩ := exists_after?_of_starts h
  rw [strip, hafter, stripMore_of_after? hafter]

/-- A line without markers may lose its blanks or not, but keeps its words. -/
theorem words_strip (line : Text) : words (strip line) = words (stripMore line) := by
  cases h : starts line with
  | true => rw [strip_of_starts h]
  | false => rw [strip_of_not_starts h, stripMore_of_not_starts h, words_trimStart]

/-- **The words that are left depend on the words only**, not on the spacing. -/
theorem words_stripMore_eq {line other : Text} (h : words line = words other) :
    words (stripMore line) = words (stripMore other) := by
  -- Each marker of the first line is one of the other line, with the same words behind it.
  fun_induction stripMore line generalizing other with
  | case1 line rest hafter ih =>
    have hstarts : starts other = true := by
      rw [← starts_eq_of_words_eq h, starts, hafter]
      rfl
    obtain ⟨rest', hafter'⟩ := exists_after?_of_starts hstarts
    rw [stripMore_of_after? hafter', ih (words_eq_of_after? h hafter hafter')]
  | case2 line hafter =>
    have hstarts : starts other = false := by
      rw [← starts_eq_of_words_eq h, after?_eq_none_iff.1 hafter]
    rw [stripMore_of_not_starts hstarts, words_trimStart, words_trimStart, h]

theorem words_strip_eq {line other : Text} (h : words line = words other) :
    words (strip line) = words (strip other) := by
  rw [words_strip, words_strip, words_stripMore_eq h]

theorem after?_append {front rest : Text} (h : after? front = some rest) (back : Text) :
    after? (front ++ back) = some (rest ++ back) := by
  obtain ⟨blanks, letter, stop, hblanks, hletter, hstop, rfl⟩ := after?_eq_some_iff.1 h
  exact after?_eq_some_iff.2 ⟨blanks, letter, stop, hblanks, hletter, hstop, by simp⟩

/-- Stripping does not reach over a blank to a text without a marker. -/
theorem words_stripMore_append {c : Char} (hc : isBlank c = true) {back : Text}
    (hback : starts back = false) (front : Text) :
    words (stripMore (front ++ c :: back)) = words (stripMore front) ++ words back := by
  fun_induction stripMore front with
  | case1 line rest hafter ih => rw [stripMore_of_after? (after?_append hafter _), ih]
  | case2 line hafter =>
    have hline : starts line = false := after?_eq_none_iff.1 hafter
    rw [stripMore_of_not_starts (starts_append_cons_of_blank hc hline hback), words_trimStart,
      words_trimStart, words_append_cons hc]

/-- **Stripping lines one by one or all at once** leaves the same words when only
    the first line has a marker. -/
theorem words_strip_joinWith {c : Char} (hc : isBlank c = true) (line : Text) {rest : List Text}
    (h : ∀ other ∈ rest, starts other = false) :
    words (strip (joinWith [c] (line :: rest))) = words (strip line) ++ rest.flatMap words := by
  cases rest with
  | nil => rw [joinWith_singleton, List.flatMap_nil, List.append_nil]
  | cons next rest =>
    rw [joinWith_cons_cons, List.append_assoc, List.singleton_append, words_strip,
      words_stripMore_append hc (starts_joinWith hc h), ← words_strip, words_joinWith hc]

/-! ## Normal form -/

/-- Embedding files puts no marker in front of a text. -/
theorem starts_of_starts_embedFiles {text : Text} (h : starts (embedFiles text) = true) :
    starts text = true := by
  obtain ⟨blanks, letter, stop, rest, hblanks, hletter, hstop, htext⟩ := starts_iff.1 h
  -- None of the characters in front can open a reference, so they stand there already.
  have hfront : openBrace ∉ blanks ++ [letter, stop] := by
    intro hmem
    rw [List.mem_append, List.mem_pair] at hmem
    rcases hmem with hmem | rfl | rfl
    · simpa using hblanks openBrace hmem
    · revert hletter
      decide
    · revert hstop
      decide
  have hcut : embedFiles text = blanks ++ [letter, stop] ++ rest := by simpa using htext
  obtain ⟨rest', rfl⟩ := exists_of_embedFiles_eq_append hfront hcut
  exact starts_iff.2 ⟨blanks, letter, stop, rest', hblanks, hletter, hstop, by simp⟩

/-- Normalizing puts no marker in front of a text. -/
theorem starts_of_starts_normalize {text : Text} (h : starts (Text.normalize text) = true) :
    starts text = true := by
  rw [Text.normalize, starts_eq_of_words_eq (words_squeeze _)] at h
  exact starts_of_starts_embedFiles h

/-- Nor does setting the question mark apart. -/
theorem starts_of_starts_spaceQuotedEnd {text : Text} (h : starts (spaceQuotedEnd text) = true) :
    starts text = true := by
  rcases spaceQuotedEnd_cases text with ⟨front, rfl, hspaced⟩ | hsame
  · -- The quote is no blank, so a marker in front stands before it, as it did.
    rw [hspaced] at h
    rcases starts_of_starts_append_cons (by decide) (by decide) h with hfront | ⟨hquote, -⟩
    · exact starts_append hfront _
    · exact absurd hquote (by decide)
  · rwa [hsame] at h

end Marker

/-! ## The steps of an outline -/

open Marker

/-- **A combined step asks an unmarked question**, wherever its text has markers. -/
theorem Step.starts_ofText (text : Text) : starts (Step.ofText text).question = false := by
  unfold Step.ofText
  -- The question is made of stripped lines, whichever line it starts at.
  apply starts_joinWith Text.isBlank_space
  intro line hline
  obtain ⟨raw, -, rfl⟩ := List.mem_map.1 (List.mem_of_mem_drop hline)
  exact starts_strip raw

/-- A question that begins with no marker has none in its normal form. -/
theorem Step.starts_normal {step : Step} (h : starts step.question = false) :
    starts step.normal.question = false := by
  by_contra hmark
  rw [Bool.not_eq_false] at hmark
  have hraw : starts step.question = true :=
    starts_of_starts_normalize (starts_of_starts_spaceQuotedEnd hmark)
  rw [h] at hraw
  cases hraw

end Casebook
