import Casebook.Metadata.Comment
import Casebook.Proofs.Metadata.Comment
import Mathlib.Data.List.Sort
import Mathlib.Tactic.MkIffOfInductiveProp

/-! # Settings written as comments

    Settings are written with one comment line for each, a flag by its name and a
    list by its name, a colon and the values.  Reading the lines, in any order,
    gives the settings back, and all settings that are read from a comment can be
    written so (`Settings.ofComment_comment`).

    What can be written are names without a colon and values without a comma,
    all of them trimmed, on one line and not empty (`Settings.Writable`).
-/

namespace Casebook

/-! ## Writing -/

namespace Setting

/-- What is written behind the name. -/
def written : Setting → Text
  | .flag => []
  | .list values => ": ".toList ++ Text.joinWith ", ".toList values

/-- The comment line of a setting. -/
def line (entry : Text × Setting) : Text :=
  "// ".toList ++ entry.1 ++ entry.2.written

/-- The values of a list; a flag has none. -/
def values : Setting → List Text
  | .flag => []
  | .list values => values

/-- A name that can be written: it ends at a colon or at the end of the line. -/
@[mk_iff]
structure IsName (name : Text) : Prop where
  nonempty : name ≠ []
  trimmed : Text.trim name = name
  noColon : ':' ∉ name
  oneLine : Text.OneLine name

/-- A value that can be written: it ends at a comma or at the end of the line. -/
@[mk_iff]
structure IsValue (value : Text) : Prop where
  nonempty : value ≠ []
  trimmed : Text.trim value = value
  noComma : ',' ∉ value
  oneLine : Text.OneLine value

/-- An entry that can be written. -/
@[mk_iff]
structure Writable (entry : Text × Setting) : Prop where
  name : IsName entry.1
  values : ∀ value ∈ entry.2.values, IsValue value

instance (name : Text) : Decidable (IsName name) :=
  decidable_of_iff' _ (isName_iff name)

instance (value : Text) : Decidable (IsValue value) :=
  decidable_of_iff' _ (isValue_iff value)

instance (entry : Text × Setting) : Decidable (Writable entry) :=
  decidable_of_iff' _ (writable_iff entry)

end Setting

/-- The comment text with a line for each entry. -/
def Settings.comment (entries : List (Text × Setting)) : Text :=
  Text.joinWith ['\n'] (entries.map Setting.line)

/-- Settings of which every entry can be written. -/
def Settings.Writable (settings : Settings) : Prop :=
  ∀ entry ∈ settings.entries, Setting.Writable entry

instance (settings : Settings) : Decidable settings.Writable :=
  List.decidableBAll Setting.Writable settings.entries

/-! ## Reading a line back -/

namespace Setting

/-- Values with a space in front of each are read without it. -/
theorem valuesOf_joinWith {values : List Text} (h : ∀ value ∈ values, IsValue value) :
    valuesOf (' ' :: Text.joinWith ", ".toList values) = values := by
  by_cases hnil : values = []
  · subst hnil
    decide
  · have hspaced : ' ' :: Text.joinWith ", ".toList values =
        Text.joinWith [','] (values.map (' ' :: ·)) :=
      Text.cons_joinWith [','] ' ' hnil
    have hpieces : ∀ piece ∈ values.map (' ' :: ·), ',' ∉ piece := by
      intro piece hmem
      obtain ⟨value, hvalue, rfl⟩ := List.mem_map.1 hmem
      simpa using (h value hvalue).noComma
    have htrim : ∀ value ∈ values, (Text.trim ∘ (' ' :: ·)) value = value := by
      intro value hmem
      exact (Text.trim_cons_of_blank Text.isBlank_space value).trans (h value hmem).trimmed
    have hkept : ∀ value ∈ values, (!value.isEmpty) = true := by
      intro value hmem
      simpa using (h value hmem).nonempty
    rw [valuesOf, hspaced, Text.split_joinWith (by simpa using hnil) hpieces, List.map_map,
      (List.map_congr_left htrim).trans (List.map_id' values), List.filter_eq_self.2 hkept]

/-- What is written behind the name is the value of the setting. -/
theorem ofTail_written {setting : Setting} (h : ∀ value ∈ setting.values, IsValue value) :
    ofTail setting.written = setting := by
  cases setting with
  | flag => rfl
  | list values => exact congrArg Setting.list (valuesOf_joinWith h)

/-- The name of a line ends where the rest is written. -/
theorem span_written {name : Text} (hname : ':' ∉ name) (setting : Setting) :
    (name ++ setting.written).takeWhile (· != ':') = name ∧
      (name ++ setting.written).dropWhile (· != ':') = setting.written := by
  cases setting with
  | flag => simpa [written] using span_of_noColon hname
  | list values => exact span_colon hname _

/-- **A line that is written is read back.** -/
theorem ofLine?_line {entry : Text × Setting} (h : Writable entry) :
    ofLine? (line entry) = some entry := by
  have hcolon : ':' ∉ ' ' :: entry.1 := by simpa using h.name.noColon
  obtain ⟨hname, hrest⟩ := span_written hcolon entry.2
  have htrim : Text.trim (' ' :: entry.1) = entry.1 :=
    (Text.trim_cons_of_blank Text.isBlank_space entry.1).trans h.name.trimmed
  -- Behind the comment sign stand a space, the name and the rest.
  refine ofLine?_eq_some_iff.2 ⟨' ' :: entry.1 ++ entry.2.written, rfl, ?_, h.name.nonempty, ?_⟩
  · rw [hname, htrim]
  · rw [hrest, ofTail_written h.values]

theorem oneLine_line {entry : Text × Setting} (h : Writable entry) :
    Text.OneLine (line entry) := by
  have hwritten : Text.OneLine entry.2.written := by
    obtain ⟨name, setting⟩ := entry
    cases setting with
    | flag => exact Text.oneLine_nil
    | list values =>
      have hvalues : Text.OneLine (Text.joinWith ", ".toList values) := by
        apply Text.oneLine_joinWith (by decide)
        intro value hmem
        exact (h.values value hmem).oneLine
      exact Text.oneLine_append.2 ⟨by decide, hvalues⟩
  unfold line
  rw [Text.oneLine_append, Text.oneLine_append]
  exact ⟨⟨by decide, h.name.oneLine⟩, hwritten⟩

/-! ## What is read can be written -/

theorem isValue_of_mem_valuesOf {text value : Text} (h : Text.OneLine text)
    (hmem : value ∈ valuesOf text) : IsValue value := by
  have hline : Text.OneLine value := oneLine_valuesOf h value hmem
  obtain ⟨htrimmed, hnonempty⟩ := List.mem_filter.1 hmem
  obtain ⟨piece, hpiece, rfl⟩ := List.mem_map.1 htrimmed
  refine ⟨by simpa using hnonempty, Text.trim_trim piece, ?_, hline⟩
  intro hcomma
  exact Text.not_mem_of_mem_split hpiece (Text.trim_subset piece hcomma)

/-- **The setting that a line makes can be written.** -/
theorem writable_of_ofLine? {line : Text} {entry : Text × Setting} (hline : Text.OneLine line)
    (h : ofLine? line = some entry) : Writable entry := by
  obtain ⟨name, setting⟩ := entry
  obtain ⟨rest, hsign, rfl, hnonempty, rfl⟩ := ofLine?_eq_some_iff.1 h
  have hrest : Text.OneLine rest := oneLine_of_trimStart_eq hline hsign
  have hname : Text.trim (rest.takeWhile (· != ':')) ⊆ rest.takeWhile (· != ':') :=
    Text.trim_subset _
  refine ⟨⟨hnonempty, Text.trim_trim _, ?_, ?_⟩, ?_⟩
  · intro hcolon
    simpa using List.mem_takeWhile_imp (hname hcolon)
  · exact (hrest.of_subset (List.takeWhile_prefix _).subset).of_subset hname
  · intro value hmem
    have htail : Text.OneLine (rest.dropWhile (· != ':')) :=
      hrest.of_subset (List.dropWhile_suffix _).subset
    -- Without a colon the setting is a flag, and a flag has no values.
    cases hcut : rest.dropWhile (· != ':') with
    | nil =>
      rw [hcut] at hmem
      cases hmem
    | cons c back =>
      rw [hcut] at hmem htail
      exact isValue_of_mem_valuesOf (htail.of_subset (List.subset_cons_self c back)) hmem

end Setting

/-! ## The order of entries -/

namespace Settings

/-- Settings with the same entries are the same: the names decide the order. -/
theorem eq_of_perm {settings other : Settings} (h : settings.entries.Perm other.entries) :
    settings = other := by
  have hentries : settings.entries = other.entries := by
    apply List.Perm.eq_of_pairwise _ settings.ascending other.ascending h
    intro entry entry' _ _ hlt hgt
    exact absurd (List.lt_trans hlt hgt) (List.lt_irrefl _)
  cases settings
  cases other
  cases hentries
  rfl

theorem nodup_names (settings : Settings) : (settings.entries.map Prod.fst).Nodup := by
  have hne : settings.entries.Pairwise fun a b => a.1 ≠ b.1 := by
    apply settings.ascending.imp
    intro entry other hlt heq
    exact List.lt_irrefl _ (heq ▸ hlt)
  exact List.pairwise_map.2 hne

/-- A new name is put among the others, which all stay. -/
theorem place_perm {name : Text} (value : Setting) {entries : List (Text × Setting)}
    (h : name ∉ entries.map Prod.fst) :
    (place name value entries).Perm ((name, value) :: entries) := by
  fun_induction place name value entries with
  | case1 => exact List.Perm.refl _
  | case2 => exact List.Perm.refl _
  | case3 first rest _ heq => exact absurd (by simp [heq]) h
  | case4 first rest _ _ ih =>
    have hrest : name ∉ rest.map Prod.fst := by
      intro hmem
      exact h (List.mem_cons_of_mem _ hmem)
    exact ((ih hrest).cons first).trans (List.Perm.swap _ _ _)

/-- Settings that are set one after the other, each once, are all there. -/
theorem foldl_set_perm {settings : Settings} {entries : List (Text × Setting)}
    (h : ((entries ++ settings.entries).map Prod.fst).Nodup) :
    (entries.foldl (fun settings entry => settings.set entry.1 entry.2) settings).entries.Perm
      (entries ++ settings.entries) := by
  induction entries generalizing settings with
  | nil => exact List.Perm.refl _
  | cons entry rest ih =>
    rw [List.cons_append, List.map_cons, List.nodup_cons] at h
    obtain ⟨hfresh, hnodup⟩ := h
    have hset : (settings.set entry.1 entry.2).entries.Perm (entry :: settings.entries) := by
      apply place_perm
      intro hmem
      exact hfresh (by simp [hmem])
    -- The entry moves behind those still to be set.
    have hmoved : (rest ++ (settings.set entry.1 entry.2).entries).Perm
        (entry :: rest ++ settings.entries) :=
      (hset.append_left rest).trans List.perm_middle
    have hnext : ((rest ++ (settings.set entry.1 entry.2).entries).map Prod.fst).Nodup := by
      rw [(hmoved.map Prod.fst).nodup_iff]
      exact List.nodup_cons.2 ⟨hfresh, hnodup⟩
    exact (ih hnext).trans hmoved

/-! ## Reading a comment back -/

/-- Lines that are written set the settings that they are written for. -/
theorem foldl_addLine_map_line {settings : Settings} {entries : List (Text × Setting)}
    (h : ∀ entry ∈ entries, Setting.Writable entry) :
    (entries.map Setting.line).foldl addLine settings =
      entries.foldl (fun settings entry => settings.set entry.1 entry.2) settings := by
  induction entries generalizing settings with
  | nil => rfl
  | cons entry rest ih =>
    have hline : settings.addLine (Setting.line entry) = settings.set entry.1 entry.2 := by
      rw [addLine, Setting.ofLine?_line (h entry (by simp))]
    rw [List.map_cons, List.foldl_cons, List.foldl_cons, hline]
    apply ih
    intro other hmem
    exact h other (List.mem_cons_of_mem entry hmem)

/-- A line break at the end of a comment adds an empty line, which sets nothing. -/
theorem ofComment_append_newline (source : Text) : ofComment (source ++ ['\n']) = ofComment source := by
  unfold ofComment ofLines
  rw [Text.split_append_cons, List.foldl_append]
  rfl

/-- **Settings are read back** from the lines they are written on, in any order. -/
theorem ofComment_comment {settings : Settings} (h : settings.Writable)
    {entries : List (Text × Setting)} (hperm : entries.Perm settings.entries) :
    ofComment (comment entries) = settings := by
  have hwritable : ∀ entry ∈ entries, Setting.Writable entry := by
    intro entry hmem
    exact h entry (hperm.mem_iff.1 hmem)
  have hread : ofComment (comment entries) =
      entries.foldl (fun settings entry => settings.set entry.1 entry.2) {} := by
    by_cases hnil : entries = []
    · subst hnil
      rfl
    · have hlines : ∀ line ∈ entries.map Setting.line, '\n' ∉ line := by
        intro line hmem
        obtain ⟨entry, hentry, rfl⟩ := List.mem_map.1 hmem
        exact Setting.oneLine_line (hwritable entry hentry)
      rw [← foldl_addLine_map_line hwritable, ofComment, comment,
        Text.split_joinWith (by simpa using hnil) hlines, ofLines]
  have hnodup : ((entries ++ ({} : Settings).entries).map Prod.fst).Nodup := by
    rw [List.append_nil, (hperm.map Prod.fst).nodup_iff]
    exact settings.nodup_names
  have hall := foldl_set_perm hnodup
  rw [List.append_nil] at hall
  rw [hread]
  exact eq_of_perm (hall.trans hperm)

/-- **Settings that are read can be written**, whatever the comment is. -/
theorem writable_ofComment (source : Text) : (ofComment source).Writable := by
  apply ofComment_invariant
  · intro entry hmem
    cases hmem
  · intro settings line name setting hline hsetting h entry hmem
    rcases mem_place hmem with rfl | hmem
    · exact Setting.writable_of_ofLine? hline hsetting
    · exact h entry hmem

/-- **Writing and reading settings.**  Settings that can be written are read back
    from their lines, in any order, with or without a line break at the end.  What
    is read from any comment can be written, and reading it back changes nothing. -/
theorem comment_roundTrip :
    (∀ settings : Settings, settings.Writable → ∀ entries : List (Text × Setting),
      entries.Perm settings.entries →
        ofComment (comment entries) = settings ∧
          ofComment (comment entries ++ ['\n']) = settings) ∧
      ∀ source, (ofComment source).Writable ∧ ∀ entries : List (Text × Setting),
        entries.Perm (ofComment source).entries →
          ofComment (comment entries) = ofComment source ∧
            ofComment (comment entries ++ ['\n']) = ofComment source := by
  have hforth (settings : Settings) (h : settings.Writable) (entries : List (Text × Setting))
      (hperm : entries.Perm settings.entries) : ofComment (comment entries) = settings ∧
        ofComment (comment entries ++ ['\n']) = settings := by
    rw [ofComment_append_newline]
    exact ⟨ofComment_comment h hperm, ofComment_comment h hperm⟩
  refine ⟨hforth, ?_⟩
  intro source
  exact ⟨writable_ofComment source, hforth _ (writable_ofComment source)⟩

/-- Settings with comment signs, a colon, a carriage return and an exotic space
    in them. -/
def unusual : Settings where
  entries := [
    ("/x\r//".toList, .list []),
    ("disabled".toList, .flag),
    ("title".toList, .list ["a: b".toList, "// c\u2003d".toList])]
  ascending := by decide

/-- A comment with repeated names, empty values and lines that set nothing. -/
def untidyComment : Text :=
  "//a:1\n  ///b:x,,  y :z\t\r\n//\n//:v\nstep\n//a : ".toList

theorem comment_roundTrip_unusual :
    unusual.Writable ∧ unusual.entries.reverse.Perm unusual.entries ∧
      ofComment (comment unusual.entries.reverse) = unusual ∧
      (ofComment untidyComment).entries =
        [("/b".toList, .list ["x".toList, "y :z".toList]), ("a".toList, .list [])] ∧
      ofComment (comment (ofComment untidyComment).entries) = ofComment untidyComment := by
  have hwritable : unusual.Writable := by decide
  have hperm : unusual.entries.reverse.Perm unusual.entries := List.reverse_perm _
  have hread : (ofComment untidyComment).entries =
      [("/b".toList, .list ["x".toList, "y :z".toList]), ("a".toList, .list [])] := by
    decide +kernel
  exact ⟨hwritable, hperm, (comment_roundTrip.1 unusual hwritable _ hperm).1, hread,
    ((comment_roundTrip.2 untidyComment).2 _ (List.Perm.refl _)).1⟩

end Settings

end Casebook
