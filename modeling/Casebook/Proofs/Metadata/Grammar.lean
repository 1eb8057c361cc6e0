import Casebook.Proofs.Metadata.LineEnds

/-! # The grammar of comments

    What settings a comment has, said without reading it character by character.

    * A line makes a setting when it is written as the grammar says
      (`Setting.Makes`): blanks, the comment sign, and a name, alone or with a
      colon and values behind it.
    * The grammar can be given as a pattern with blanks at every place where they
      may stand (`Setting.Matched`).  A line may then be matched in several ways,
      but all of them make the same setting (`Setting.makes_iff_matched`).
    * Of the lines that make a setting of one name the last one counts, and a
      comment has no other settings (`Settings.ofComment_grammar`).
-/

namespace Casebook

open Text (Blank isBlank)

namespace Setting

/-! ## Lines that make settings -/

/-- **The grammar of a line.**  Behind blanks stands the comment sign.  What
    follows is a name, and then the line makes a flag, or it is cut at its first
    colon into a name and values.  Names are trimmed and must not be empty; values
    are cut at commas and trimmed, and empty ones are dropped. -/
inductive Makes : Text → Text → Setting → Prop
  | flag {blanks rest : Text} (hblanks : Blank blanks) (hcolon : ':' ∉ rest)
      (hname : Text.trim rest ≠ []) : Makes (blanks ++ commentSign ++ rest) (Text.trim rest) .flag
  | list {blanks front values : Text} (hblanks : Blank blanks) (hcolon : ':' ∉ front)
      (hname : Text.trim front ≠ []) :
      Makes (blanks ++ commentSign ++ (front ++ ':' :: values)) (Text.trim front)
        (.list (((Text.split ',' values).map Text.trim).filter (· ≠ [])))

theorem valuesOf_eq (values : Text) :
    valuesOf values = ((Text.split ',' values).map Text.trim).filter (· ≠ []) := by
  unfold valuesOf
  apply List.filter_congr
  intro value _
  rw [Bool.eq_iff_iff]
  simp

/-- What is read from a line with the comment sign. -/
theorem ofLine?_commentSign {blanks : Text} (h : Blank blanks) (rest : Text) :
    ofLine? (blanks ++ commentSign ++ rest) =
      if Text.trim (rest.takeWhile (· != ':')) = [] then none
      else some (Text.trim (rest.takeWhile (· != ':')), ofTail (rest.dropWhile (· != ':'))) := by
  have hstart : Text.trimStart (blanks ++ commentSign ++ rest) = commentSign ++ rest := by
    rw [List.append_assoc, Text.trimStart_append, if_pos h]
    rfl
  rw [ofLine?, hstart, Text.dropPiece?_append]
  simp only [List.isEmpty_iff]

theorem ofLine?_flag {blanks front : Text} (h : Blank blanks) (hcolon : ':' ∉ front) :
    ofLine? (blanks ++ commentSign ++ front) =
      if Text.trim front = [] then none else some (Text.trim front, .flag) := by
  obtain ⟨htake, hdrop⟩ := span_of_noColon hcolon
  rw [ofLine?_commentSign h, htake, hdrop, ofTail]

theorem ofLine?_list {blanks front : Text} (h : Blank blanks) (hcolon : ':' ∉ front)
    (values : Text) :
    ofLine? (blanks ++ commentSign ++ (front ++ ':' :: values)) =
      if Text.trim front = [] then none
      else some (Text.trim front, .list (valuesOf values)) := by
  obtain ⟨htake, hdrop⟩ := span_colon hcolon values
  rw [ofLine?_commentSign h, htake, hdrop, ofTail]

/-- **The setting that a line makes** is the one that is read from it. -/
theorem makes_iff {line name : Text} {setting : Setting} :
    Makes line name setting ↔ ofLine? line = some (name, setting) := by
  constructor
  · intro h
    cases h with
    | flag hblanks hcolon hname => rw [ofLine?_flag hblanks hcolon, if_neg hname]
    | list hblanks hcolon hname => rw [ofLine?_list hblanks hcolon, if_neg hname, valuesOf_eq]
  · intro h
    obtain ⟨rest, hsign, rfl, hname, rfl⟩ := ofLine?_eq_some_iff.1 h
    obtain ⟨blanks, hblanks, hline⟩ := Text.exists_eq_append_trimStart line
    rw [hsign, ← List.append_assoc] at hline
    have hcolon : ':' ∉ rest.takeWhile (· != ':') := by
      intro hmem
      simpa using List.mem_takeWhile_imp hmem
    have hcut := (List.takeWhile_append_dropWhile (p := (· != ':')) (l := rest)).symm
    cases hrest : rest.dropWhile (· != ':') with
    | nil =>
      rw [hrest, List.append_nil] at hcut
      rw [← hcut] at hcolon hname ⊢
      rw [hline]
      exact .flag hblanks hcolon hname
    | cons c values =>
      -- What the name ends at is a colon.
      have hc : c = ':' := by
        have hfirst := List.head?_dropWhile_not (· != ':') rest
        rw [hrest] at hfirst
        simpa using hfirst
      subst hc
      rw [hrest] at hcut
      rw [hline, ofTail, valuesOf_eq]
      nth_rewrite 1 [hcut]
      exact .list hblanks hcolon hname

/-- A line makes one setting at most. -/
theorem Makes.unique {line name other : Text} {setting more : Setting}
    (h : Makes line name setting) (hother : Makes line other more) :
    name = other ∧ setting = more := by
  have hread := makes_iff.1 h
  rw [makes_iff.1 hother] at hread
  cases hread
  exact ⟨rfl, rfl⟩

/-! ## The pattern of a line -/

/-- A way to match a line with the pattern: blanks, the comment sign, blanks, and
    either a name with a colon, blanks and values behind it, or a name alone.  A
    name holds no colon, and one with a colon behind it is not empty.  Blanks next
    to a name or to the values may be counted to them, so that a line may be
    matched in several ways.  The match catches the name, and the values if there
    is a colon. -/
inductive Matched : Text → Text → Option Text → Prop
  | list {front gap name pad values : Text} (hfront : Blank front) (hgap : Blank gap)
      (hname : name ≠ []) (hcolon : ':' ∉ name) (hpad : Blank pad) :
      Matched (front ++ commentSign ++ (gap ++ name ++ ':' :: (pad ++ values))) name (some values)
  | flag {front gap name : Text} (hfront : Blank front) (hgap : Blank gap) (hcolon : ':' ∉ name) :
      Matched (front ++ commentSign ++ (gap ++ name)) name none

/-- The setting with the values that a match has caught. -/
def ofCaught : Option Text → Setting
  | none => .flag
  | some values => .list (valuesOf values)

theorem valuesOf_append_of_blank {pad : Text} (h : Blank pad) (values : Text) :
    valuesOf (pad ++ values) = valuesOf values := by
  induction pad with
  | nil => rfl
  | cons c pad ih =>
    obtain ⟨hc, hpad⟩ := Text.blank_cons.1 h
    have hcomma : c ≠ ',' := by
      rintro rfl
      cases hc
    obtain ⟨first, rest, hsplit⟩ := Text.exists_split_eq_cons ',' (pad ++ values)
    have hmore := Text.split_cons_of_ne hcomma hsplit
    rw [← ih hpad, List.cons_append, valuesOf, valuesOf, hmore, hsplit, List.map_cons,
      List.map_cons, Text.trim_cons_of_blank hc]

theorem colon_not_mem_append {gap name : Text} (hgap : Blank gap) (hname : ':' ∉ name) :
    ':' ∉ gap ++ name := by
  intro hmem
  rcases List.mem_append.1 hmem with hmem | hmem
  · cases hgap ':' hmem
  · exact hname hmem

/-- **A match says what is read from a line**, in whatever way the blanks are
    counted: they are trimmed away from the name and from the values. -/
theorem Matched.ofLine?_eq {line caught : Text} {values? : Option Text}
    (h : Matched line caught values?) :
    ofLine? line =
      if Text.trim caught = [] then none else some (Text.trim caught, ofCaught values?) := by
  cases h with
  | @list front gap name pad values hfront hgap _ hcolon hpad =>
    rw [ofLine?_list hfront (colon_not_mem_append hgap hcolon), Text.trim_blank_append hgap,
      valuesOf_append_of_blank hpad, ofCaught]
  | flag hfront hgap hcolon =>
    rw [ofLine?_flag hfront (colon_not_mem_append hgap hcolon), Text.trim_blank_append hgap,
      ofCaught]

/-- A line that makes a setting can be matched. -/
theorem Makes.exists_matched {line name : Text} {setting : Setting} (h : Makes line name setting) :
    ∃ caught values?, Matched line caught values? := by
  cases h with
  | @flag blanks rest hblanks hcolon _ => exact ⟨rest, none, .flag hblanks Text.blank_nil hcolon⟩
  | @list blanks front values hblanks hcolon hname =>
    have hnonempty : front ≠ [] := by
      rintro rfl
      exact hname rfl
    exact ⟨front, some values, .list hblanks Text.blank_nil hnonempty hcolon Text.blank_nil⟩

/-- **All matches of a line make the same setting.**  A line makes a setting if it
    can be matched and each match catches its name and its value. -/
theorem makes_iff_matched {line name : Text} {setting : Setting} :
    Makes line name setting ↔ name ≠ [] ∧ (∃ caught values?, Matched line caught values?) ∧
      ∀ caught values?, Matched line caught values? →
        Text.trim caught = name ∧ ofCaught values? = setting := by
  constructor
  · intro h
    have hread := makes_iff.1 h
    have hall : ∀ caught values?, Matched line caught values? →
        Text.trim caught ≠ [] ∧ Text.trim caught = name ∧ ofCaught values? = setting := by
      intro caught values? hmatched
      rw [hmatched.ofLine?_eq] at hread
      split at hread
      · cases hread
      next hcaught => exact ⟨hcaught, by simpa using hread⟩
    obtain ⟨caught, values?, hmatched⟩ := h.exists_matched
    obtain ⟨hcaught, rfl, -⟩ := hall caught values? hmatched
    refine ⟨hcaught, ⟨caught, values?, hmatched⟩, ?_⟩
    intro other more hother
    exact (hall other more hother).2
  · intro hright
    obtain ⟨hname, ⟨caught, values?, hmatched⟩, hall⟩ := hright
    obtain ⟨rfl, rfl⟩ := hall caught values? hmatched
    rw [makes_iff, hmatched.ofLine?_eq, if_neg hname]

end Setting

/-! ## The last line of a name -/

namespace Setting

variable {line name : Text}

/-- The setting that a line makes under a name. -/
def under? (name line : Text) : Option Setting :=
  (ofLine? line).bind fun entry => if entry.1 = name then some entry.2 else none

theorem under?_eq_some_iff {setting : Setting} :
    under? name line = some setting ↔ Makes line name setting := by
  rw [makes_iff, under?]
  cases ofLine? line with
  | none => simp
  | some entry =>
    obtain ⟨key, value⟩ := entry
    simp

theorem under?_eq_none_iff : under? name line = none ↔ ∀ setting, ¬ Makes line name setting := by
  rw [Option.eq_none_iff_forall_ne_some]
  simp only [ne_eq, under?_eq_some_iff]

end Setting

namespace Settings

/-- The settings that lines make under a name, in the order of the lines. -/
def under (name : Text) (lines : List Text) : List Setting :=
  lines.filterMap (Setting.under? name)

theorem mem_under {lines : List Text} {line name : Text} {setting : Setting} (hline : line ∈ lines)
    (h : Setting.Makes line name setting) : setting ∈ under name lines :=
  List.mem_filterMap.2 ⟨line, hline, Setting.under?_eq_some_iff.2 h⟩

/-- **The last setting under a name** is the one that is kept. -/
theorem get?_ofLines (lines : List Text) (name : Text) :
    (ofLines lines).get? name = (under name lines).getLast? := by
  -- By induction on the lines from their end, as each line overrides those before.
  induction lines using List.reverseRecOn with
  | nil => rfl
  | append_singleton lines line ih =>
    have hfold : ofLines (lines ++ [line]) = (ofLines lines).addLine line := by
      rw [ofLines, List.foldl_append, ← ofLines]
      rfl
    rw [hfold, addLine, under, List.filterMap_append, ← under]
    cases hline : Setting.ofLine? line with
    | none => simp [Setting.under?, hline, ih]
    | some entry =>
      obtain ⟨key, value⟩ := entry
      by_cases hname : key = name
      · simp [Setting.under?, hline, hname, get?_set]
      · simp [Setting.under?, hline, hname, get?_set, Ne.symm hname, ih]

/-- The settings of a comment are those of its lines, whatever ends them. -/
theorem get?_ofComment (source name : Text) :
    (ofComment source).get? name = (under name (Text.lines source)).getLast? := by
  have hlines : under name (Text.lines source) = under name (Text.split '\n' source) := by
    apply Text.filterMap_lines
    · intro line
      rw [Setting.under?, Setting.under?, Setting.ofLine?_concat (by decide)]
    · rfl
  rw [ofComment, get?_ofLines, hlines]

/-- The last of the lines that make a setting of the name makes this one. -/
def LastMakes (lines : List Text) (name : Text) (setting : Setting) : Prop :=
  ∃ before line after, lines = before ++ line :: after ∧ Setting.Makes line name setting ∧
    ∀ later ∈ after, ∀ other, ¬ Setting.Makes later name other

theorem getLast?_under_eq_some_iff {lines : List Text} {name : Text} {setting : Setting} :
    (under name lines).getLast? = some setting ↔ LastMakes lines name setting := by
  unfold under LastMakes
  rw [List.getLast?_filterMap, List.findSome?_eq_some_iff]
  simp only [Setting.under?_eq_some_iff, Setting.under?_eq_none_iff]
  constructor
  · intro hfirst
    obtain ⟨after, line, before, hlines, hmakes, hafter⟩ := hfirst
    refine ⟨before.reverse, line, after.reverse, ?_, hmakes, by simpa using hafter⟩
    rw [← List.reverse_reverse lines, hlines]
    simp
  · intro hlast
    obtain ⟨before, line, after, rfl, hmakes, hafter⟩ := hlast
    exact ⟨after.reverse, line, before.reverse, by simp, hmakes, by simpa using hafter⟩

/-- There is a last line of a name if there is one at all. -/
theorem exists_lastMakes_iff {lines : List Text} {name : Text} :
    (∃ setting, LastMakes lines name setting) ↔
      ∃ line ∈ lines, ∃ setting, Setting.Makes line name setting := by
  constructor
  · intro hlast
    obtain ⟨setting, before, line, after, rfl, hmakes, -⟩ := hlast
    exact ⟨line, by simp, setting, hmakes⟩
  · intro hright
    obtain ⟨line, hline, setting, hmakes⟩ := hright
    have hlast := List.getLast?_eq_some_getLast (List.ne_nil_of_mem (mem_under hline hmakes))
    exact ⟨_, getLast?_under_eq_some_iff.1 hlast⟩

/-- **The grammar of comments.**  A comment has a setting of a name exactly if one
    of its lines makes one, and it is the setting that the last of these lines
    makes.  Which line makes which setting is said by the grammar, and in the same
    way by every match of the line with the pattern. -/
theorem ofComment_grammar (source name : Text) :
    ((ofComment source).has name = true ↔
        ∃ line ∈ Text.lines source, ∃ setting, Setting.Makes line name setting) ∧
      (∀ setting, (ofComment source).get? name = some setting ↔
        LastMakes (Text.lines source) name setting) ∧
      ∀ line setting, Setting.Makes line name setting ↔
        name ≠ [] ∧ (∃ caught values?, Setting.Matched line caught values?) ∧
          ∀ caught values?, Setting.Matched line caught values? →
            Text.trim caught = name ∧ Setting.ofCaught values? = setting := by
  have hget : ∀ setting, (ofComment source).get? name = some setting ↔
      LastMakes (Text.lines source) name setting := by
    intro setting
    rw [get?_ofComment, getLast?_under_eq_some_iff]
  refine ⟨?_, hget, fun line setting => Setting.makes_iff_matched⟩
  rw [has, Option.isSome_iff_exists, ← exists_lastMakes_iff]
  exact exists_congr hget

end Settings

end Casebook
