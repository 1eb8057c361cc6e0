import Casebook.Proofs.Metadata.Grammar

/-! # Lines without a value

    A comment may write the name of a list without a value, alone or with nothing
    but commas and blanks behind its colon (`Setting.Bare`).  Of a comment with one
    line at most for each of these names such lines are dropped
    (`Metadata.Shortened`), and the settings are looked up again: a name alone was
    read as no list before, and a name with a colon as a list of no values
    (`Metadata.Shortened.list?_cases`).
-/

namespace Casebook

open Text (Blank isBlank)

/-! ## Bare lines -/

namespace Setting

/-- There are no values where there are only commas and blanks. -/
theorem valuesOf_eq_nil_iff {text : Text} :
    valuesOf text = [] ↔ ∀ c ∈ text, c = ',' ∨ isBlank c = true := by
  rw [valuesOf_eq, List.filter_eq_nil_iff]
  simp only [List.mem_map, ne_eq, decide_not, Bool.not_eq_true', decide_eq_false_iff_not, not_not,
    forall_exists_index, and_imp, forall_apply_eq_imp_iff₂, Text.trim_eq_nil_iff]
  constructor
  · intro h c hc
    rw [← Text.joinWith_split ',' text] at hc
    rcases Text.mem_joinWith hc with hcomma | ⟨piece, hpiece, hmem⟩
    · exact Or.inl (List.mem_singleton.1 hcomma)
    · exact Or.inr (h piece hpiece c hmem)
  · intro h piece hpiece c hmem
    refine (h c (Text.subset_of_mem_split hpiece hmem)).resolve_left ?_
    rintro rfl
    exact Text.not_mem_of_mem_split hpiece hmem

/-- The line writes the name without a value. -/
inductive Bare (name : Text) : Text → Prop
  | flag {line : Text} (h : Makes line name .flag) : Bare name line
  | list {blanks front values : Text} (hblanks : Blank blanks) (hcolon : ':' ∉ front)
      (hname : Text.trim front = name) (hnonempty : name ≠ [])
      (hvalues : ∀ c ∈ values, c = ',' ∨ isBlank c = true) :
      Bare name (blanks ++ commentSign ++ (front ++ ':' :: values))

/-- **A bare line** makes a flag or an empty list. -/
theorem bare_iff {name line : Text} :
    Bare name line ↔ Makes line name .flag ∨ Makes line name (.list []) := by
  constructor
  · intro h
    cases h with
    | flag h => exact Or.inl h
    | @list blanks front values hblanks hcolon hname hnonempty hvalues =>
      subst hname
      have hmakes := @Makes.list blanks front values hblanks hcolon hnonempty
      rw [← valuesOf_eq, valuesOf_eq_nil_iff.2 hvalues] at hmakes
      exact Or.inr hmakes
  · intro h
    rcases h with h | h
    · exact .flag h
    · generalize hsetting : Setting.list [] = setting at h
      cases h with
      | flag => cases hsetting
      | @list blanks front values hblanks hcolon hname =>
        rw [← valuesOf_eq, Setting.list.injEq] at hsetting
        exact .list hblanks hcolon rfl hname (valuesOf_eq_nil_iff.1 hsetting.symm)

instance (line name : Text) (setting : Setting) : Decidable (Makes line name setting) :=
  decidable_of_iff' _ makes_iff

instance (name line : Text) : Decidable (Bare name line) :=
  decidable_of_iff' _ bare_iff

end Setting

/-! ## Lines of one name -/

namespace Settings

variable {lines : List Text} {name line : Text} {setting : Setting} {drops : Text → Bool}

/-- Where a name has one line at most, that line decides. -/
theorem under_eq_singleton (honce : (under name lines).length ≤ 1) (hline : line ∈ lines)
    (h : Setting.Makes line name setting) : under name lines = [setting] := by
  have hmem := mem_under hline h
  have hlength : (under name lines).length = 1 :=
    le_antisymm honce (List.length_pos_of_mem hmem)
  obtain ⟨only, honly⟩ := List.length_eq_one_iff.1 hlength
  rw [honly, List.mem_singleton] at hmem
  rw [honly, hmem]

/-- The lines that are dropped and those that stay make all the settings of a name. -/
theorem perm_under (name : Text) (lines : List Text) (drops : Text → Bool) :
    (under name (lines.filter drops) ++ under name (lines.filter fun line => !drops line)).Perm
      (under name lines) := by
  unfold under
  rw [← List.filterMap_append]
  exact (List.filter_append_perm drops lines).filterMap _

/-- If the one line of a name is dropped, none is left. -/
theorem under_eq_nil_of_drops (honce : (under name lines).length ≤ 1) (hline : line ∈ lines)
    (hdrops : drops line = true) (h : Setting.Makes line name setting) :
    under name (lines.filter fun line => !drops line) = [] := by
  have hlength := (perm_under name lines drops).length_eq
  have hdropped : setting ∈ under name (lines.filter drops) :=
    mem_under (List.mem_filter.2 ⟨hline, hdrops⟩) h
  have hpos := List.length_pos_of_mem hdropped
  rw [List.length_append] at hlength
  apply List.eq_nil_of_length_eq_zero
  omega

/-- If no line of a name is dropped, all are left. -/
theorem under_eq_of_not_drops
    (h : ∀ line ∈ lines, drops line = true → ∀ setting, ¬ Setting.Makes line name setting) :
    under name (lines.filter fun line => !drops line) = under name lines := by
  unfold under
  rw [List.filterMap_filter]
  apply List.filterMap_congr
  intro line hline
  cases hdrops : drops line with
  | false => rfl
  | true =>
    rw [Bool.not_true, if_neg Bool.false_ne_true]
    exact (Setting.under?_eq_none_iff.2 (h line hline hdrops)).symm

end Settings

/-! ## Shortened comments -/

namespace Metadata

/-- The names that are read as lists. -/
def listNames : List Text :=
  ["title".toList, "tags".toList, "browser".toList, "browsers".toList, "path".toList,
    "site_id".toList]

/-- The text `other` is the comment without the lines that are dropped, which write
    names of lists without a value.  In the comment each of these names has one line
    at most, so no two of these lines are equal, and which ones are dropped can be
    said by their texts. -/
structure Shortened (source other : Text) (drops : Text → Bool) : Prop where
  lines : Text.lines other = (Text.lines source).filter fun line => !drops line
  bare : ∀ line ∈ Text.lines source, drops line = true →
    ∃ name ∈ listNames, Setting.Bare name line
  once : ∀ name ∈ listNames, (Settings.under name (Text.lines source)).length ≤ 1

/-- A line is dropped that makes an empty list of the name. -/
def DropsEmpty (source : Text) (drops : Text → Bool) (name : Text) : Prop :=
  ∃ line ∈ Text.lines source, drops line = true ∧ Setting.Makes line name (.list [])

namespace Shortened

variable {source other name : Text} {drops : Text → Bool}

/-- A line that is dropped makes a flag or an empty list, and of such a name only. -/
theorem of_makes (h : Shortened source other drops) {line : Text} {setting : Setting}
    (hline : line ∈ Text.lines source) (hdrops : drops line = true)
    (hmakes : Setting.Makes line name setting) :
    name ∈ listNames ∧ (setting = .flag ∨ setting = .list []) := by
  obtain ⟨key, hkey, hbare⟩ := h.bare line hline hdrops
  rcases Setting.bare_iff.1 hbare with hflag | hempty
  · obtain ⟨rfl, rfl⟩ := hmakes.unique hflag
    exact ⟨hkey, Or.inl rfl⟩
  · obtain ⟨rfl, rfl⟩ := hmakes.unique hempty
    exact ⟨hkey, Or.inr rfl⟩

/-- Other settings stay as they are. -/
theorem get?_eq (h : Shortened source other drops) (hname : name ∉ listNames) :
    (Settings.ofComment other).get? name = (Settings.ofComment source).get? name := by
  rw [Settings.get?_ofComment, Settings.get?_ofComment, h.lines, Settings.under_eq_of_not_drops]
  intro line hline hdrops setting hmakes
  exact hname (h.of_makes hline hdrops hmakes).1

/-- **What becomes of a list**: if an empty one is dropped there is none any more, and
    otherwise it stays as it is. -/
theorem list?_cases (h : Shortened source other drops) (hname : name ∈ listNames) :
    DropsEmpty source drops name ∧ (Settings.ofComment source).list? name = some [] ∧
        (Settings.ofComment other).list? name = none ∨
      ¬ DropsEmpty source drops name ∧
        (Settings.ofComment other).list? name = (Settings.ofComment source).list? name := by
  have honce := h.once name hname
  unfold Settings.list?
  rw [Settings.get?_ofComment, Settings.get?_ofComment, h.lines]
  by_cases hdropped : ∃ line ∈ Text.lines source, drops line = true ∧
      ∃ setting, Setting.Makes line name setting
  · obtain ⟨line, hline, hdrops, setting, hmakes⟩ := hdropped
    rw [Settings.under_eq_nil_of_drops honce hline hdrops hmakes,
      Settings.under_eq_singleton honce hline hmakes]
    rcases (h.of_makes hline hdrops hmakes).2 with rfl | rfl
    · -- The name alone was no list before.
      refine Or.inr ⟨?_, rfl⟩
      intro hempty
      obtain ⟨line', hline', -, hmakes'⟩ := hempty
      have hsame := Settings.under_eq_singleton honce hline' hmakes'
      rw [Settings.under_eq_singleton honce hline hmakes] at hsame
      cases hsame
    · exact Or.inl ⟨⟨line, hline, hdrops, hmakes⟩, rfl, rfl⟩
  · refine Or.inr ⟨?_, ?_⟩
    · intro hempty
      obtain ⟨line, hline, hdrops, hmakes⟩ := hempty
      exact hdropped ⟨line, hline, hdrops, _, hmakes⟩
    · rw [Settings.under_eq_of_not_drops]
      intro line hline hdrops setting hmakes
      exact hdropped ⟨line, hline, hdrops, setting, hmakes⟩

/-- A list that is left is the one that a line makes. -/
theorem list?_eq_some_iff (h : Shortened source other drops) (hname : name ∈ listNames)
    {values : List Text} :
    (Settings.ofComment other).list? name = some values ↔
      ∃ line ∈ Text.lines other, Setting.Makes line name (.list values) := by
  have honce : (Settings.under name (Text.lines other)).length ≤ 1 := by
    rw [h.lines]
    have hlength := (Settings.perm_under name (Text.lines source) drops).length_eq
    have hbound := h.once name hname
    rw [List.length_append] at hlength
    omega
  unfold Settings.list?
  rw [Settings.get?_ofComment]
  constructor
  · intro hlist
    split at hlist
    next found hfound =>
      obtain rfl := Option.some.inj hlist
      obtain ⟨before, line, after, hlines, hmakes, -⟩ :=
        Settings.getLast?_under_eq_some_iff.1 hfound
      exact ⟨line, by simp [hlines], hmakes⟩
    · cases hlist
  · intro hright
    obtain ⟨line, hline, hmakes⟩ := hright
    rw [Settings.under_eq_singleton honce hline hmakes]
    rfl

theorem getD_list?_eq_nil_iff (h : Shortened source other drops) (hname : name ∈ listNames) :
    ((Settings.ofComment other).list? name).getD [] = [] ↔
      ∀ line ∈ Text.lines other, ∀ values,
        Setting.Makes line name (.list values) → values = [] := by
  constructor
  · intro hnil line hline values hmakes
    rw [(h.list?_eq_some_iff hname).2 ⟨line, hline, hmakes⟩] at hnil
    exact hnil
  · intro hall
    cases hlist : (Settings.ofComment other).list? name with
    | none => rfl
    | some values =>
      obtain ⟨line, hline, hmakes⟩ := (h.list?_eq_some_iff hname).1 hlist
      exact hall line hline values hmakes

end Shortened

end Metadata

end Casebook
