import Casebook.Metadata.Basic
import Casebook.Proofs.Text.Lines

/-! # Comments on one line

    A comment is read line by line, and a value is a part of its line.  So no
    text that a comment declares has a line break
    (`Metadata.oneLine_ofComment`).
-/

namespace Casebook

open Text (OneLine)

/-! ## One line of a comment -/

namespace Setting

/-- No value of the setting has a line break. -/
def OneLine (setting : Setting) : Prop :=
  ∀ values, setting = .list values → ∀ value ∈ values, Text.OneLine value

theorem oneLine_valuesOf {text : Text} (h : Text.OneLine text) :
    ∀ value ∈ valuesOf text, Text.OneLine value := by
  intro value hmem
  unfold valuesOf at hmem
  obtain ⟨piece, hpiece, rfl⟩ := List.mem_map.1 (List.mem_of_mem_filter hmem)
  exact (h.of_subset (Text.subset_of_mem_split hpiece)).of_subset (Text.trim_subset piece)

theorem oneLine_ofTail {tail : Text} (h : Text.OneLine tail) : (ofTail tail).OneLine := by
  intro values hvalues
  cases tail with
  | nil => cases hvalues
  | cons c rest =>
    have hrest : Text.OneLine rest := h.of_subset (List.subset_cons_self c rest)
    cases hvalues
    exact oneLine_valuesOf hrest

/-- Where there is no colon, a name goes on to the end. -/
theorem span_of_noColon {front : Text} (h : ':' ∉ front) :
    front.takeWhile (· != ':') = front ∧ front.dropWhile (· != ':') = [] := by
  have hall : ∀ c ∈ front, (c != ':') = true := by
    intro c hc
    rw [bne_iff_ne]
    rintro rfl
    exact h hc
  exact ⟨List.takeWhile_eq_self_iff.2 hall, List.dropWhile_eq_nil_iff.2 hall⟩

/-- A name ends at the first colon. -/
theorem span_colon {front : Text} (h : ':' ∉ front) (values : Text) :
    (front ++ ':' :: values).takeWhile (· != ':') = front ∧
      (front ++ ':' :: values).dropWhile (· != ':') = ':' :: values := by
  obtain ⟨htake, hdrop⟩ := span_of_noColon h
  rw [List.takeWhile_append, List.dropWhile_append, htake, hdrop]
  simp

/-- **A line that makes a setting** begins with the comment sign behind blanks.
    The name stands up to the first colon, and the value is read from the rest. -/
theorem ofLine?_eq_some_iff {line name : Text} {setting : Setting} :
    ofLine? line = some (name, setting) ↔
      ∃ rest, Text.trimStart line = commentSign ++ rest ∧
        name = Text.trim (rest.takeWhile (· != ':')) ∧ name ≠ [] ∧
        setting = ofTail (rest.dropWhile (· != ':')) := by
  unfold ofLine?
  constructor
  · intro h
    split at h
    · cases h
    next rest hsign =>
      simp only at h
      split at h
      · cases h
      next hname =>
        obtain ⟨rfl, rfl⟩ := Prod.mk.inj (Option.some.inj h)
        exact ⟨rest, Text.dropPiece?_eq_some_iff.1 hsign, rfl, by simpa using hname, rfl⟩
  · intro hright
    obtain ⟨rest, hsign, rfl, hname, rfl⟩ := hright
    have hnonempty : (Text.trim (rest.takeWhile (· != ':'))).isEmpty = false := by
      simpa using hname
    rw [Text.dropPiece?_eq_some_iff.2 hsign]
    simp only [hnonempty, Bool.false_eq_true, if_false]

/-- What follows the comment sign is a part of the line. -/
theorem oneLine_of_trimStart_eq {line rest : Text} (hline : Text.OneLine line)
    (h : Text.trimStart line = commentSign ++ rest) : Text.OneLine rest := by
  have hstart : Text.OneLine (Text.trimStart line) :=
    hline.of_subset (List.dropWhile_suffix Text.isBlank).subset
  rw [h, Text.oneLine_append] at hstart
  exact hstart.2

/-- The setting that a line makes has its values from that line. -/
theorem oneLine_of_ofLine? {line name : Text} {setting : Setting} (hline : Text.OneLine line)
    (h : ofLine? line = some (name, setting)) : setting.OneLine := by
  obtain ⟨rest, hsign, -, -, rfl⟩ := ofLine?_eq_some_iff.1 h
  have hrest : Text.OneLine rest := oneLine_of_trimStart_eq hline hsign
  exact oneLine_ofTail (hrest.of_subset (List.dropWhile_suffix _).subset)

end Setting

/-! ## All lines of a comment -/

namespace Settings

/-- **What every setting of a line keeps** holds of the settings of a comment. -/
theorem ofComment_invariant {P : Settings → Prop} (hempty : P {})
    (hset : ∀ settings line name setting, Text.OneLine line →
      Setting.ofLine? line = some (name, setting) → P settings → P (settings.set name setting))
    (source : Text) : P (ofComment source) := by
  have hlines : ∀ line ∈ Text.split '\n' source, Text.OneLine line := by
    intro line hmem
    exact Text.oneLine_of_mem_lines hmem
  unfold ofComment ofLines
  -- By induction on the lines; one that makes no setting changes nothing.
  generalize ({} : Settings) = settings at hempty ⊢
  generalize Text.split '\n' source = lines at hlines ⊢
  induction lines generalizing settings with
  | nil => exact hempty
  | cons line rest ih =>
    have hline : P (settings.addLine line) := by
      unfold addLine
      split
      · exact hempty
      next name setting hsetting =>
        exact hset settings line name setting (hlines line (by simp)) hsetting hempty
    apply ih _ hline
    intro other hmem
    exact hlines other (List.mem_cons_of_mem line hmem)

/-- No value of any setting has a line break. -/
def OneLine (settings : Settings) : Prop :=
  ∀ name setting, settings.get? name = some setting → setting.OneLine

/-- **The settings of a comment have no line breaks**, whatever the comment is. -/
theorem oneLine_ofComment (source : Text) : (ofComment source).OneLine := by
  apply ofComment_invariant
  · intro name setting h
    cases h
  · -- A setting that is read is the one just set, or it was there before.
    intro settings line name setting hline hsetting h other found hfound
    rw [get?_set] at hfound
    split at hfound
    · obtain rfl := Option.some.inj hfound
      exact Setting.oneLine_of_ofLine? hline hsetting
    · exact h other found hfound

theorem OneLine.list? {settings : Settings} (h : settings.OneLine) {name : Text}
    {values : List Text}
    (hvalues : settings.list? name = some values) : ∀ value ∈ values, Text.OneLine value := by
  unfold Settings.list? at hvalues
  split at hvalues
  next found hfound =>
    obtain rfl := Option.some.inj hvalues
    exact h name (.list found) hfound found rfl
  · cases hvalues

end Settings

/-! ## What a comment declares -/

/-- The texts of metadata. -/
def Metadata.texts (metadata : Metadata) : List Text :=
  metadata.title.toList ++ metadata.path.toList ++ metadata.siteId.toList ++ metadata.tags ++
    metadata.browsers.getD []

/-- **No text that a comment declares has a line break.** -/
theorem Metadata.oneLine_ofComment (source : Text) :
    ∀ text ∈ (Metadata.ofComment source).texts, OneLine text := by
  have hsettings := Settings.oneLine_ofComment source
  have hjoined (separator : Text) (hseparator : OneLine separator) (name : Text) :
      ∀ text ∈ (((Settings.ofComment source).list? name).map (Text.joinWith separator)).toList,
        OneLine text := by
    intro text hmem
    obtain ⟨values, hvalues, rfl⟩ := Option.map_eq_some_iff.1 (Option.mem_toList.1 hmem)
    exact Text.oneLine_joinWith hseparator (hsettings.list? hvalues)
  have hlisted (found : Option (List Text))
      (hfound : ∀ values, found = some values → ∀ value ∈ values, OneLine value) :
      ∀ text ∈ found.getD [], OneLine text := by
    cases found with
    | none => simp
    | some values => exact hfound values rfl
  intro text hmem
  unfold Metadata.texts at hmem
  rw [List.mem_append, List.mem_append, List.mem_append, List.mem_append] at hmem
  rcases hmem with (((hmem | hmem) | hmem) | hmem) | hmem
  · exact hjoined ", ".toList (by decide) _ text hmem
  · exact hjoined [','] (by decide) _ text hmem
  · exact hjoined [','] (by decide) _ text hmem
  · apply hlisted _ _ text hmem
    intro values hvalues
    exact hsettings.list? hvalues
  · apply hlisted _ _ text hmem
    intro values hvalues
    obtain ⟨hvalues, -⟩ := Option.filter_eq_some_iff.1 hvalues
    rcases Option.or_eq_some_iff.1 hvalues with hvalues | ⟨-, hvalues⟩
    · exact hsettings.list? hvalues
    · exact hsettings.list? hvalues

end Casebook
