import Casebook.Proofs.Step.Marker

/-! # What stands behind the markers

    A text may be nothing but markers (`Marker.Marks`): blanks, and then one or
    more times a letter, a stop and blanks.  This says without a scan what is
    left of a line when the markers it begins with are removed
    (`Marker.Leaves`): everything behind a text of markers that is followed
    neither by a blank nor by a further marker.

    There is one such rest, and `Marker.strip` finds it (`leaves_iff`).  Nothing
    is left of exactly those lines that are empty or nothing but markers
    (`strip_eq_nil_iff_onlyMarks`).

    A line may begin with several texts of markers.  The one that is removed is the
    longest, and a line without any stays as it is (`strip_longest`).
-/

namespace Casebook.Marker

open Text

/-! ## Texts of markers -/

/-- One or more markers, with blanks before, between and behind them. -/
inductive Marks : Text → Prop
  | last {blanks rest : Text} {letter stop : Char} (hblanks : Blank blanks)
      (hletter : isLetter letter = true) (hstop : isStop stop = true) (hrest : Blank rest) :
      Marks (blanks ++ letter :: stop :: rest)
  | more {blanks rest : Text} {letter stop : Char} (hblanks : Blank blanks)
      (hletter : isLetter letter = true) (hstop : isStop stop = true) (hrest : Marks rest) :
      Marks (blanks ++ letter :: stop :: rest)

theorem Marks.starts {marks : Text} (h : Marks marks) : starts marks = true := by
  cases h with
  | last hblanks hletter hstop _ => exact starts_iff.2 ⟨_, _, _, _, hblanks, hletter, hstop, rfl⟩
  | more hblanks hletter hstop _ => exact starts_iff.2 ⟨_, _, _, _, hblanks, hletter, hstop, rfl⟩

/-- The text holds nothing but markers, or nothing at all. -/
def OnlyMarks (text : Text) : Prop :=
  text = [] ∨ Marks text

/-! ## The rest of a line -/

/-- What is left of a line without the markers it begins with: the line itself if
    there are none, and otherwise what follows the markers and their blanks. -/
inductive Leaves : Text → Text → Prop
  | unmarked {line : Text} (hline : starts line = false) : Leaves line line
  | marked {marks rest : Text} (hmarks : Marks marks) (hrest : starts rest = false)
      (hblank : startsBlank rest = false) : Leaves (marks ++ rest) rest

theorem startsBlank_stripMore (rest : Text) : startsBlank (stripMore rest) = false := by
  fun_induction stripMore rest with
  | case1 line rest h ih => exact ih
  | case2 rest h => exact startsBlank_trimStart rest

/-- What the scan removes are the markers a line begins with, and blanks alone
    from a line that begins with none. -/
theorem exists_eq_append_stripMore (line : Text) :
    ∃ front, line = front ++ stripMore line ∧
      if starts line = true then Marks front else Blank front := by
  -- One marker is removed at a time, and the blanks when no further one follows.
  fun_induction stripMore line with
  | case1 line rest hafter ih =>
    obtain ⟨blanks, letter, stop, hblanks, hletter, hstop, rfl⟩ := after?_eq_some_iff.1 hafter
    obtain ⟨front, hrest, hfront⟩ := ih
    refine ⟨blanks ++ letter :: stop :: front, ?_, ?_⟩
    · rw [List.append_assoc, List.cons_append, List.cons_append, ← hrest]
    · rw [if_pos (starts_iff.2 ⟨blanks, letter, stop, rest, hblanks, hletter, hstop, rfl⟩)]
      split at hfront
      · exact .more hblanks hletter hstop hfront
      · exact .last hblanks hletter hstop hfront
  | case2 line hafter =>
    obtain ⟨blanks, hblanks, htext⟩ := exists_eq_append_trimStart line
    refine ⟨blanks, htext, ?_⟩
    rwa [after?_eq_none_iff.1 hafter, if_neg Bool.false_ne_true]

theorem leaves_strip (line : Text) : Leaves line (strip line) := by
  cases hline : starts line with
  | false =>
    rw [strip_of_not_starts hline]
    exact .unmarked hline
  | true =>
    obtain ⟨marks, htext, hmarks⟩ := exists_eq_append_stripMore line
    rw [if_pos hline] at hmarks
    have hleaves := Leaves.marked hmarks (starts_stripMore line) (startsBlank_stripMore line)
    rw [strip_of_starts hline]
    rwa [← htext] at hleaves

theorem stripMore_blank_append {blanks : Text} (h : Blank blanks) (line : Text) :
    stripMore (blanks ++ line) = stripMore line := by
  have hstart : trimStart (blanks ++ line) = trimStart line := by rw [trimStart_append, if_pos h]
  have hafter : after? (blanks ++ line) = after? line := by rw [after?, after?, hstart]
  cases hline : after? line with
  | none =>
    rw [hline] at hafter
    rw [stripMore_of_not_starts (after?_eq_none_iff.1 hafter),
      stripMore_of_not_starts (after?_eq_none_iff.1 hline), hstart]
  | some rest => rw [stripMore_of_after? (hafter.trans hline), stripMore_of_after? hline]

/-- The scan goes through any text of markers and on with what follows it. -/
theorem Marks.stripMore_append {marks : Text} (h : Marks marks) (rest : Text) :
    stripMore (marks ++ rest) = stripMore rest := by
  induction h with
  | @last blanks behind letter stop hblanks hletter hstop hbehind =>
    have hafter : after? (blanks ++ letter :: stop :: behind ++ rest) = some (behind ++ rest) :=
      after?_append (after?_eq_some_iff.2 ⟨_, _, _, hblanks, hletter, hstop, rfl⟩) rest
    rw [stripMore_of_after? hafter, stripMore_blank_append hbehind]
  | @more blanks behind letter stop hblanks hletter hstop _ ih =>
    have hafter : after? (blanks ++ letter :: stop :: behind ++ rest) = some (behind ++ rest) :=
      after?_append (after?_eq_some_iff.2 ⟨_, _, _, hblanks, hletter, hstop, rfl⟩) rest
    rw [stripMore_of_after? hafter, ih]

/-- **One rest is left of a line**, and stripping finds it. -/
theorem leaves_iff {line rest : Text} : Leaves line rest ↔ strip line = rest := by
  constructor
  · intro h
    cases h with
    | unmarked hline => exact strip_of_not_starts hline
    | @marked marks _ hmarks hrest hblank =>
      -- The scan stops where neither a marker nor a blank follows.
      rw [strip_of_starts (starts_append hmarks.starts rest), hmarks.stripMore_append,
        stripMore_of_not_starts hrest, trimStart_eq_self hblank]
  · rintro rfl
    exact leaves_strip line

/-- **Nothing is left** of a line that is nothing but markers. -/
theorem strip_eq_nil_iff_onlyMarks {line : Text} : strip line = [] ↔ OnlyMarks line := by
  rw [← leaves_iff]
  constructor
  · intro h
    cases h with
    | unmarked _ => exact Or.inl rfl
    | @marked marks _ hmarks _ _ =>
      rw [List.append_nil]
      exact Or.inr hmarks
  · rintro (rfl | hmarks)
    · exact .unmarked rfl
    · have hleaves : Leaves (line ++ []) [] := .marked hmarks rfl rfl
      rwa [List.append_nil] at hleaves

/-! ## The longest text of markers -/

/-- The line begins with blanks, and behind them with a letter and a stop. -/
def Marked (line : Text) : Prop :=
  ∃ blanks letter stop rest, Blank blanks ∧ letter ∈ ['q', 'Q'] ∧ stop ∈ [':', '.'] ∧
    line = blanks ++ letter :: stop :: rest

theorem starts_iff_marked {line : Text} : starts line = true ↔ Marked line := by
  rw [starts_iff]
  simp [Marked, isLetter, isStop]

/-- A line is left as it is exactly when it begins with no marker. -/
theorem strip_eq_self_iff {line : Text} : strip line = line ↔ ¬ Marked line := by
  rw [← starts_iff_marked, Bool.not_eq_true]
  constructor
  · intro hself
    rw [← hself]
    exact starts_strip line
  · exact strip_of_not_starts

/-- The line is cut behind the longest text of markers that it begins with, so what
    is left begins neither with a blank nor with a further marker. -/
structure Longest (line marks rest : Text) : Prop where
  cut : line = marks ++ rest
  spelled : Marks marks
  longest : ∀ other, Marks other → other <+: line → other <+: marks
  solid : startsBlank rest = false
  unmarked : ¬ Marked rest

theorem Longest.marked {line marks rest : Text} (h : Longest line marks rest) : Marked line := by
  rw [h.cut, ← starts_iff_marked]
  exact starts_append h.spelled.starts rest

theorem stripMore_suffix (line : Text) : stripMore line <:+ line := by
  obtain ⟨front, hline, -⟩ := exists_eq_append_stripMore line
  exact ⟨front, hline.symm⟩

/-- A line with markers is stripped of the longest text of them. -/
theorem exists_longest {line : Text} (h : Marked line) :
    ∃ marks, Longest line marks (strip line) := by
  rw [← starts_iff_marked] at h
  obtain ⟨marks, hline, hmarks⟩ := exists_eq_append_stripMore line
  rw [if_pos h] at hmarks
  rw [strip_of_starts h]
  refine ⟨marks, hline, hmarks, ?_, startsBlank_stripMore line, ?_⟩
  · -- What the scan leaves lies behind any other text of markers in front of the line.
    rintro other hother ⟨rest, rfl⟩
    have hrest : stripMore (other ++ rest) <:+ rest := by
      rw [hother.stripMore_append]
      exact stripMore_suffix rest
    have hlength := congrArg List.length hline
    rw [List.length_append, List.length_append] at hlength
    have hle := hrest.length_le
    exact List.prefix_of_prefix_length_le ⟨rest, rfl⟩ ⟨_, hline.symm⟩ (by omega)
  · rw [← starts_iff_marked, starts_stripMore]
    exact Bool.false_ne_true

theorem strip_suffix (line : Text) : strip line <:+ line := by
  by_cases h : Marked line
  · obtain ⟨marks, hlongest⟩ := exists_longest h
    exact ⟨marks, hlongest.cut.symm⟩
  · have hself : strip line = line := strip_eq_self_iff.2 h
    exact ⟨[], by rw [List.nil_append, hself]⟩

/-- **All markers in front of a line are removed, and nothing else.**  What is left
    is the end of the line.  It is the whole line exactly if that begins with no
    marker; a line that does loses the longest text of markers that it begins with.
    So nothing is left to remove a second time. -/
theorem strip_longest (line : Text) :
    strip line <:+ line ∧ (strip line = line ↔ ¬ Marked line) ∧
      (Marked line ↔ ∃ marks, Longest line marks (strip line)) ∧
      strip (strip line) = strip line := by
  refine ⟨strip_suffix line, strip_eq_self_iff, ⟨exists_longest, ?_⟩, ?_⟩
  · rintro ⟨marks, hlongest⟩
    exact hlongest.marked
  · exact strip_of_not_starts (starts_strip line)

/-- Markers over several lines.  A letter with a blank before its stop is none. -/
example : strip "\u3000q.Q: \n\tQ.q :Ready?".toList = "q :Ready?".toList := by
  decide +kernel

end Casebook.Marker
