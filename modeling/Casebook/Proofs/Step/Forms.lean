import Casebook.Book.Basic
import Casebook.Proofs.Step.Combined

/-! # Two forms of a step

    A step can be declared in one text, with its question behind a marker, or in
    two parts.  Both forms come to the same step (`Outline.normal_add_eq_ask`).

    The combined text is trimmed, cut into lines and stripped line by line, while
    the two parts are kept as they are given and stripped once.  All this changes
    the spacing only, and the normal form depends on nothing but the words.
-/

namespace Casebook

open Text Marker

namespace Step

/-! ## Lines of a combined step -/

/-- Trimming reaches no further than the marker between the two texts. -/
theorem trim_marked (instruction question : Text) :
    trim (instruction ++ "\nQ: ".toList ++ question) =
      trimStart (instruction ++ ['\n']) ++ 'Q' :: ':' :: trimEnd (' ' :: question) := by
  have hletter : isBlank 'Q' = false := by decide
  have hstop : isBlank ':' = false := by decide
  have htext : instruction ++ "\nQ: ".toList ++ question =
      (instruction ++ ['\n']) ++ 'Q' :: ':' :: ' ' :: question := by
    rw [List.append_assoc, List.append_assoc]
    rfl
  rw [htext, trim, trimStart_append_cons hletter, trimEnd_append_cons hletter,
    trimEnd_cons_of_not_blank hstop]

/-- Trimming at the start puts no marker at the start of a line. -/
theorem starts_split_trimStart {text : Text} (h : ∀ line ∈ split '\n' text, starts line = false) :
    ∀ line ∈ split '\n' (trimStart text), starts line = false := by
  -- A line of a text is one behind the first when a line break is put in front of it.
  have hbreak (text : Text) : (∀ line ∈ split '\n' text, starts line = false) ↔
      ∀ front back, '\n' :: text = front ++ '\n' :: back → starts back = false := by
    rw [← starts_tail_split_iff]
    exact Iff.rfl
  rw [hbreak] at h ⊢
  obtain ⟨blanks, -, htext⟩ := exists_eq_append_trimStart text
  intro front back hcut
  cases front with
  | nil =>
    obtain ⟨-, rfl⟩ := List.cons.inj hcut
    rw [starts_eq_of_words_eq (words_trimStart text)]
    exact h [] text rfl
  | cons c front =>
    have hrest : trimStart text = front ++ '\n' :: back := (List.cons.inj hcut).2
    have hlonger : '\n' :: text = '\n' :: (blanks ++ front) ++ '\n' :: back := by
      rw [htext, hrest, List.cons_append, List.append_assoc]
    exact h _ back hlonger

/-- Nor does trimming at the end, for the lines behind the first. -/
theorem starts_tail_split_trimEnd {text : Text}
    (h : ∀ line ∈ (split '\n' text).tail, starts line = false) :
    ∀ line ∈ (split '\n' (trimEnd text)).tail, starts line = false := by
  rw [starts_tail_split_iff] at h ⊢
  obtain ⟨blanks, hblanks, htext⟩ := exists_eq_trimEnd_append text
  intro front back hcut
  have hback : starts (back ++ blanks) = false := by
    apply h front
    rw [htext, hcut, List.append_assoc, List.cons_append]
  rwa [starts_eq_of_words_eq (words_append_of_blank hblanks back)] at hback

/-- The lines before the marker carry the words of the instruction; there are
    none if it is blank. -/
theorem exists_split_trim_marked {instruction : Text} (question : Text)
    (h : ∀ line ∈ split '\n' instruction, starts line = false) :
    ∃ front : List Text, (∀ line ∈ front, starts line = false) ∧
      front.flatMap words = words instruction ∧
      split '\n' (trim (instruction ++ "\nQ: ".toList ++ question)) =
        front ++ split '\n' ('Q' :: ':' :: trimEnd (' ' :: question)) := by
  rw [trim_marked, trimStart_append]
  by_cases hblank : Blank instruction
  · refine ⟨[], ?_, (words_eq_nil_iff.2 hblank).symm, ?_⟩
    · intro line hmem
      cases hmem
    · rw [if_pos hblank]
      rfl
  · refine ⟨split '\n' (trimStart instruction), starts_split_trimStart h, ?_, ?_⟩
    · rw [flatMap_words_split, words_trimStart]
    · rw [if_neg hblank, List.append_assoc, List.singleton_append, split_append_cons]

/-- The lines from the marker on: it stands on the first line of the question,
    and the others have none. -/
theorem exists_split_marked {question : Text}
    (h : ∀ line ∈ (split '\n' question).tail, starts line = false) :
    ∃ marked rest, split '\n' ('Q' :: ':' :: trimEnd (' ' :: question)) = marked :: rest ∧
      starts marked = true ∧ ∀ line ∈ rest, starts line = false := by
  obtain ⟨first, rest, hsplit⟩ := exists_split_eq_cons '\n' (trimEnd (' ' :: question))
  refine ⟨'Q' :: ':' :: first, rest, ?_, ?_, ?_⟩
  · exact split_cons_of_ne (by decide) (split_cons_of_ne (by decide) hsplit)
  · exact starts_iff.2 ⟨[], 'Q', ':', first, blank_nil, rfl, rfl, rfl⟩
  · have hspaced : (split '\n' (' ' :: question)).tail = (split '\n' question).tail := by
      obtain ⟨line, lines, hquestion⟩ := exists_split_eq_cons '\n' question
      rw [split_cons_of_ne (by decide) hquestion, hquestion]
      rfl
    have htail := starts_tail_split_trimEnd (hspaced ▸ h)
    rwa [hsplit] at htail

/-! ## Words of a combined step -/

/-- **A combined step keeps the words**: those before the marker in its
    instruction, and in its question those behind all markers that follow each
    other. -/
theorem words_ofText_marked {instruction question : Text}
    (hinstruction : ∀ line ∈ split '\n' instruction, starts line = false)
    (hquestion : ∀ line ∈ (split '\n' question).tail, starts line = false) :
    words (ofText (instruction ++ "\nQ: ".toList ++ question)).instruction = words instruction ∧
      words (ofText (instruction ++ "\nQ: ".toList ++ question)).question =
        words (strip question) := by
  obtain ⟨front, hfront, hwords, hlines⟩ := exists_split_trim_marked question hinstruction
  obtain ⟨marked, rest, hsplit, hmarked, hrest⟩ := exists_split_marked hquestion
  rw [hsplit] at hlines
  have hcut : Cut (split '\n' (trim (instruction ++ "\nQ: ".toList ++ question))) front marked rest :=
    ⟨hlines, hfront, Or.inl hmarked⟩
  rw [hcut.ofText_eq, List.map_cons]
  constructor
  · rw [words_joinWith isBlank_space, hwords]
  · have hbreak : isBlank '\n' = true := by decide
    have hspaced : words (trimEnd (' ' :: question)) = words question := by
      rw [words_trimEnd, words_cons_of_blank isBlank_space]
    calc words (joinWith [' '] (strip marked :: rest.map strip))
        = words (strip marked) ++ rest.flatMap words := by
          rw [map_strip hrest, words_joinWith isBlank_space, List.flatMap_cons]
      _ = words (strip ('Q' :: ':' :: trimEnd (' ' :: question))) := by
          rw [← words_strip_joinWith hbreak marked hrest, ← hsplit, joinWith_split]
      _ = words (stripMore (trimEnd (' ' :: question))) := rfl
      _ = words (strip question) := by rw [words_stripMore_eq hspaced, words_strip]

/-- Steps whose texts have the same words have the same normal form. -/
theorem normal_eq_of_words_eq {step other : Step}
    (hinstruction : words step.instruction = words other.instruction)
    (hquestion : words step.question = words other.question) : step.normal = other.normal := by
  unfold normal
  rw [normalize_eq_of_words_eq hinstruction, normalize_eq_of_words_eq hquestion]

end Step

namespace Outline

/-- Whether the steps are committed, and how, is decided by their normal forms. -/
theorem commit_push_eq (outline : Outline) {step other : Step} (h : step.normal = other.normal) :
    (outline.push step).commit = (outline.push other).commit := by
  have hsteps : (outline.push step).steps.map Step.normal =
      (outline.push other).steps.map Step.normal := by
    unfold push
    rw [List.map_append, List.map_append, List.map_singleton, List.map_singleton, h]
  unfold commit
  rw [hsteps]

/-- **The two forms of a step agree.**  When no step waits for its question, an
    instruction and a marked question in one text, and the same two texts one
    after the other, each put one step behind the others.  Both steps have the
    same normal form, so they are committed alike or refused alike, alone and
    behind the others.

    The instruction must have no line that begins with a marker, and the question
    none behind its first. -/
theorem normal_add_eq_ask {outline : Outline} (h : outline.Settled) {instruction question : Text}
    (hinstruction : ∀ line ∈ Text.split '\n' instruction, Marker.starts line = false)
    (hquestion : ∀ line ∈ (Text.split '\n' question).tail, Marker.starts line = false) :
    ∃ combined parted : Step,
      outline.add (instruction ++ "\nQ: ".toList ++ question) = outline.push combined ∧
        (outline.instruct instruction).ask question = .ok (outline.push parted) ∧
        combined.normal = parted.normal ∧
        commit ⟨[combined]⟩ = commit ⟨[parted]⟩ ∧
        (outline.push combined).commit = (outline.push parted).commit := by
  obtain ⟨hfirst, hsecond⟩ := Step.words_ofText_marked hinstruction hquestion
  have hspaced : words (' ' :: instruction) = words instruction :=
    words_cons_of_blank isBlank_space instruction
  have hnormal : (Step.ofText (instruction ++ "\nQ: ".toList ++ question)).normal =
      Step.normal { instruction := ' ' :: instruction, question := strip question } :=
    Step.normal_eq_of_words_eq (hfirst.trans hspaced.symm) hsecond
  have halone := commit_push_eq {} hnormal
  exact ⟨_, _, rfl, ask_instruct h instruction question, hnormal, halone,
    commit_push_eq outline hnormal⟩

/-- An outline whose only step has its question. -/
def answered : Outline where
  steps := [{ instruction := "Sign in.".toList, question := "Are you in?".toList }]

/-- An instruction with a file whose name is spread over two lines. -/
def spreadInstruction : Text :=
  "\n Open\t\x7b\x7bimg/start\r\n page.png\x7d\x7d\n".toList

/-- A question with further markers, blank lines and a quoted end. -/
def spreadQuestion : Text :=
  " q:Q. is it\n\n\u2028 \"on\"?\n ".toList

theorem normal_add_eq_ask_spread :
    answered.Settled ∧
      ∃ combined parted : Step,
        answered.add (spreadInstruction ++ "\nQ: ".toList ++ spreadQuestion) =
            answered.push combined ∧
          (answered.instruct spreadInstruction).ask spreadQuestion = .ok (answered.push parted) ∧
          combined.normal = parted.normal ∧
          commit ⟨[combined]⟩ = commit ⟨[parted]⟩ ∧
          (answered.push combined).commit = (answered.push parted).commit := by
  have hsettled : answered.Settled := settled_push (by decide) {}
  exact ⟨hsettled, normal_add_eq_ask hsettled (by decide) (by decide)⟩

end Outline

end Casebook
