import Casebook.Platform
import Casebook.Proofs.Text.Characters

/-! # Resolved browser names

    * An identifier is itself a name of its platform (`ofName?_identifier`), and a
      name that no rule matches stands for itself.  So a resolved name is resolved
      to itself (`resolve_resolve`).
    * Whether a rule matches a name can be told by seven words
      (`ofName?_eq_none_iff`): the rules before and behind these match no more.
    * The rules see a name in lower case only, so they match names that differ in
      the case of ASCII letters in the same way (`ofName?_eq_of_sameLetters`).
-/

namespace Casebook.Platform

/-- Every platform is found by its identifier. -/
theorem ofName?_identifier (platform : Platform) : ofName? platform.identifier = some platform := by
  cases platform with
  | android device orientation => cases device <;> cases orientation <;> decide
  | _ => decide

/-- **Resolving twice is resolving once.** -/
theorem resolve_resolve (name : Text) : resolve (resolve name) = resolve name := by
  cases h : ofName? name with
  | none =>
    have hself : resolve name = name := by rw [resolve, h]
    rw [hself, hself]
  | some platform =>
    have hidentifier : resolve name = platform.identifier := by rw [resolve, h]
    rw [hidentifier, resolve, ofName?_identifier]

theorem newline_not_mem_identifier (platform : Platform) : '\n' ∉ platform.identifier := by
  cases platform with
  | android device orientation => cases device <;> cases orientation <;> decide
  | _ => decide

/-- A name on one line is resolved to a name on one line. -/
theorem newline_not_mem_resolve {name : Text} (h : '\n' ∉ name) : '\n' ∉ resolve name := by
  unfold resolve
  split
  next platform _ => exact newline_not_mem_identifier platform
  · exact h

/-! ## Names that a rule matches -/

/-- The word is somewhere in the name, in any case of its letters. -/
def Has (name : Text) (word : String) : Prop :=
  Text.contains (lower name) word.toList = true

/-- One of the words for a kind of device or a browser is in the name, or the short
    word for a browser beside one for a mac. -/
def Known (name : Text) : Prop :=
  Has name "android" ∨ Has name "chrome" ∨ Has name "firefox" ∨ Has name "safari" ∨
    Has name "ie" ∨ Has name "edge" ∨ Has name "ff" ∧ (Has name "mac" ∨ Has name "osx")

theorem contains_of_append {text front back : Text}
    (h : Text.contains text (front ++ back) = true) : Text.contains text front = true := by
  obtain ⟨before, after, rfl⟩ := Text.contains_iff.1 h
  exact Text.contains_iff.2 ⟨before, back ++ after, by simp⟩

theorem ite_some_eq_none_iff {α : Type} {c : Prop} [Decidable c] {value : α} {rest : Option α} :
    (if c then some value else rest) = none ↔ ¬ c ∧ rest = none := by
  by_cases h : c <;> simp [h]

/-- **A name stands for itself** when it has none of the words. -/
theorem ofName?_eq_none_iff {name : Text} : ofName? name = none ↔ ¬ Known name := by
  -- A browser with its version is matched by the word for the browser alone, too.
  have hversion (version : Text)
      (h : Text.contains (lower name) ("ie".toList ++ version) = true) : Has name "ie" :=
    contains_of_append h
  have h8 : Has name "ie8" → Has name "ie" := hversion ['8']
  have h9 : Has name "ie9" → Has name "ie" := hversion ['9']
  have h10 : Has name "ie10" → Has name "ie" := hversion ['1', '0']
  simp only [ofName?, ofLower?, ite_some_eq_none_iff, Bool.and_eq_true, Bool.or_eq_true,
    and_true, ← Has.eq_1]
  unfold Known
  grind

/-! ## The case of letters -/

/-- The two names have the same characters, but for the case of ASCII letters. -/
def SameLetters (name other : Text) : Prop :=
  name.map Char.toLower = other.map Char.toLower

theorem lowerChar_toLower (c : Char) : lowerChar c.toLower = lowerChar c := by
  rcases Text.toLower_cases c with h | ⟨-, hhigh, hlower⟩
  · rw [h]
  · -- Neither a capital letter nor a small one is among the two other characters.
    have hletter (d : Char) (hd : d.toNat < 128) : lowerChar d = [d.toLower] := by
      have hne (e : Char) (he : 128 ≤ e.toNat) : d ≠ e := by
        rintro rfl
        omega
      rw [lowerChar, if_neg (hne _ (by decide)), if_neg (hne _ (by decide))]
    rw [hletter c (by omega), hletter c.toLower (by omega), Text.toLower_toLower]

theorem lower_map_toLower (name : Text) : lower (name.map Char.toLower) = lower name := by
  simp only [lower, List.flatMap_map, lowerChar_toLower]

/-- **The case of ASCII letters does not matter** to any rule. -/
theorem ofName?_eq_of_sameLetters {name other : Text} (h : SameLetters name other) :
    ofName? name = ofName? other := by
  unfold ofName?
  rw [← lower_map_toLower name, h, lower_map_toLower]

/-! ## What names are resolved to -/

/-- A name is resolved to an identifier, or stands for itself when it has none of the
    words. -/
theorem resolve_cases (name : Text) :
    Known name ∧ (∃ platform : Platform, resolve name = platform.identifier) ∨
      ¬ Known name ∧ resolve name = name := by
  by_cases hknown : Known name
  · have hsome : ofName? name ≠ none := fun hnone => ofName?_eq_none_iff.1 hnone hknown
    obtain ⟨platform, hplatform⟩ := Option.ne_none_iff_exists'.1 hsome
    exact Or.inl ⟨hknown, platform, by rw [resolve, hplatform]⟩
  · exact Or.inr ⟨hknown, by rw [resolve, ofName?_eq_none_iff.2 hknown]⟩

/-- Names with the same letters are resolved to one identifier, or both stand for
    themselves. -/
theorem resolve_of_sameLetters {name other : Text} (h : SameLetters name other) :
    (∃ platform : Platform,
        resolve name = platform.identifier ∧ resolve other = platform.identifier) ∨
      resolve name = name ∧ resolve other = other := by
  have hsame := ofName?_eq_of_sameLetters h
  unfold resolve
  rw [← hsame]
  cases ofName? name with
  | none => exact Or.inr ⟨rfl, rfl⟩
  | some platform => exact Or.inl ⟨platform, rfl, rfl⟩

end Casebook.Platform
