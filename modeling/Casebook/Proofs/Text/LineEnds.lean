import Casebook.Proofs.Text.Lines

/-! # Line ends

    Some editors end a line with a carriage return and a line break.  A text
    written in that way (`Text.withReturns`) has the same words and, trimmed and
    cut at its line breaks, the same lines but for a return at the end of each
    line that is not the last (`Text.split_withReturns`).

    `Text.lines` are the lines without what ends them.  They say the same as the
    pieces between line breaks wherever returns and empty lines say nothing
    (`Text.filterMap_lines`).
-/

namespace Casebook.Text

/-- The text with a carriage return before every line break. -/
def withReturns (text : Text) : Text :=
  text.flatMap fun c => if c = '\n' then ['\r', '\n'] else [c]

theorem withReturns_nil : withReturns [] = [] := rfl

theorem withReturns_cons_newline (text : Text) :
    withReturns ('\n' :: text) = '\r' :: '\n' :: withReturns text := rfl

theorem withReturns_cons {c : Char} (hc : c ≠ '\n') (text : Text) :
    withReturns (c :: text) = c :: withReturns text := by
  rw [withReturns, List.flatMap_cons, if_neg hc, ← withReturns, List.singleton_append]

theorem withReturns_append (front back : Text) :
    withReturns (front ++ back) = withReturns front ++ withReturns back :=
  List.flatMap_append

theorem withReturns_eq_nil_iff {text : Text} : withReturns text = [] ↔ text = [] := by
  cases text with
  | nil => exact Iff.rfl
  | cons c text =>
    by_cases hc : c = '\n'
    · simp [hc, withReturns_cons_newline]
    · simp [withReturns_cons hc]

theorem blank_withReturns {text : Text} (h : Blank text) : Blank (withReturns text) := by
  intro c hc
  obtain ⟨d, hd, hmem⟩ := List.mem_flatMap.1 hc
  split at hmem
  · rcases List.mem_pair.1 hmem with rfl | rfl <;> decide
  · rw [List.mem_singleton.1 hmem]
    exact h d hd

/-! ## Trimming -/

theorem trimStart_withReturns (text : Text) :
    trimStart (withReturns text) = withReturns (trimStart text) := by
  induction text with
  | nil => rfl
  | cons c text ih =>
    by_cases hc : c = '\n'
    · subst hc
      exact ih
    · rw [withReturns_cons hc, trimStart_cons, trimStart_cons, ih]
      split
      · rfl
      · rw [withReturns_cons hc]

theorem trimEnd_withReturns (text : Text) :
    trimEnd (withReturns text) = withReturns (trimEnd text) := by
  obtain ⟨blanks, hblanks, htext⟩ := exists_eq_trimEnd_append text
  -- The last character that stays is no blank, and no return is put before it.
  have hend : ∀ c, (withReturns (trimEnd text)).getLast? = some c → isBlank c = false := by
    intro c hc
    rcases List.eq_nil_or_concat (trimEnd text) with hnil | ⟨front, last, hconcat⟩
    · rw [hnil] at hc
      cases hc
    · rw [List.concat_eq_append] at hconcat
      have htrimmed : (trimEnd text).getLast? = some last := by
        rw [hconcat, List.getLast?_concat]
      have hlast : isBlank last = false := isBlank_of_getLast?_trimEnd htrimmed
      have hne : last ≠ '\n' := by
        rintro rfl
        cases hlast
      rw [hconcat, withReturns_append, withReturns_cons hne, withReturns_nil,
        List.getLast?_concat, Option.some.injEq] at hc
      rwa [← hc]
  have hsplit : withReturns text = withReturns (trimEnd text) ++ withReturns blanks := by
    rw [← withReturns_append, ← htext]
  rw [hsplit, trimEnd_append, if_pos (blank_withReturns hblanks), trimEnd_eq_self hend]

theorem trim_withReturns (text : Text) : trim (withReturns text) = withReturns (trim text) := by
  rw [trim, trimStart_withReturns, trimEnd_withReturns, ← trim]

/-! ## Lines -/

/-- The lines with a carriage return at the end of each but the last. -/
def returned : List Text → List Text
  | [] => []
  | [line] => [line]
  | line :: next :: rest => (line ++ ['\r']) :: returned (next :: rest)

/-- **The lines of a text with returns**: the return before a line break is the
    last character of its line. -/
theorem split_withReturns (text : Text) :
    split '\n' (withReturns text) = returned (split '\n' text) := by
  induction text with
  | nil => rfl
  | cons c text ih =>
    obtain ⟨first, rest, htext⟩ := exists_split_eq_cons '\n' text
    by_cases hc : c = '\n'
    · subst hc
      have hbreak (line text : Text) :
          split '\n' (line ++ '\n' :: text) = split '\n' line ++ split '\n' text :=
        split_append_cons '\n' line text
      have hreturn := hbreak ['\r'] (withReturns text)
      have hempty := hbreak [] text
      rw [ih, htext] at hreturn
      rw [htext] at hempty
      exact hreturn.trans (congrArg returned hempty).symm
    · rw [withReturns_cons hc, split_cons_of_ne hc htext]
      rw [htext] at ih
      -- The character is put in front of the first line, whether it has a return or not.
      cases rest with
      | nil => exact split_cons_of_ne hc ih
      | cons next rest => exact split_cons_of_ne hc ih

/-- What does not depend on a return at the end of a line is the same for all
    lines. -/
theorem map_returned {α : Type} {f : Text → α} (h : ∀ line, f (line ++ ['\r']) = f line)
    (lines : List Text) : (returned lines).map f = lines.map f := by
  fun_induction returned lines with
  | case1 => rfl
  | case2 line => rfl
  | case3 line next rest ih => rw [List.map_cons, List.map_cons, ih, h]

theorem returned_drop (lines : List Text) (n : Nat) :
    (returned lines).drop n = returned (lines.drop n) := by
  fun_induction returned lines generalizing n with
  | case1 => simp [returned]
  | case2 line => cases n <;> simp [returned]
  | case3 line next rest ih =>
    cases n with
    | zero => rfl
    | succ n => exact ih n

/-! ## Lines without their ends -/

/-- The line without a carriage return at its end. -/
def withoutReturn (line : Text) : Text :=
  if line.getLast? = some '\r' then line.dropLast else line

/-- The lines among the pieces between line breaks.  A return in front of a break
    belongs to the end of its line, and what stands behind the last break is a
    line unless it is nothing. -/
def linesOf : List Text → List Text
  | [] => []
  | [last] => if last.isEmpty then [] else [last]
  | piece :: next :: rest => withoutReturn piece :: linesOf (next :: rest)

/-- The lines of a text, each without the line break, or return and line break,
    that ends it. -/
def lines (text : Text) : List Text :=
  linesOf (split '\n' text)

theorem eq_of_withoutReturn {α : Type} {f : Text → α} (h : ∀ line, f (line ++ ['\r']) = f line)
    (line : Text) : f (withoutReturn line) = f line := by
  unfold withoutReturn
  split
  next hlast =>
    obtain ⟨front, rfl⟩ := List.getLast?_eq_some_iff.1 hlast
    rw [List.dropLast_concat, h]
  · rfl

/-- What is found in lines, but neither in a return nor in an empty line, is found
    in the pieces between line breaks. -/
theorem filterMap_lines {α : Type} {f : Text → Option α}
    (hreturn : ∀ line, f (line ++ ['\r']) = f line) (hempty : f [] = none) (text : Text) :
    (lines text).filterMap f = (split '\n' text).filterMap f := by
  unfold lines
  fun_induction linesOf (split '\n' text) with
  | case1 => rfl
  | case2 last hlast =>
    rw [List.isEmpty_iff.1 hlast, List.filterMap_cons_none hempty]
  | case3 last _ => rfl
  | case4 piece next rest ih =>
    rw [List.filterMap_cons, List.filterMap_cons, ih, eq_of_withoutReturn hreturn]

/-! ## Words -/

/-- A return at the end of a line is a blank. -/
theorem words_line_return (line : Text) : words (line ++ ['\r']) = words line :=
  words_append_of_blank (by decide) line

/-- **Returns change no words.** -/
theorem words_withReturns (text : Text) : words (withReturns text) = words text := by
  rw [← flatMap_words_split, split_withReturns, List.flatMap_def, map_returned words_line_return,
    ← List.flatMap_def, flatMap_words_split]

end Casebook.Text
