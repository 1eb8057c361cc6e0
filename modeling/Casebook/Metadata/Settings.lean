import Casebook.Text.Basic

/-! # Settings

    The settings of a test case as its author wrote them: named values, each
    name at most once.  A value is a bare flag or a list.  The names are kept in
    the order of their code points, so settings with the same entries are
    the same value (`Settings.eq_of_perm`).
-/

namespace Casebook

/-- The value of a setting. -/
inductive Setting where
  /-- the name alone -/
  | flag
  /-- the name with a list of values, possibly of none -/
  | list (values : List Text)
  deriving DecidableEq, Repr

/-- Named settings, in the order of their names. -/
structure Settings where
  /-- each name with its value -/
  entries : List (Text × Setting) := []
  /-- the names ascend, so no name occurs twice -/
  ascending : entries.Pairwise (fun a b => a.1 < b.1) := by exact .nil

namespace Settings

/-- Puts an entry at its place, instead of an entry of the same name. -/
def place (name : Text) (value : Setting) : List (Text × Setting) → List (Text × Setting)
  | [] => [(name, value)]
  | entry :: rest =>
    if name < entry.1 then (name, value) :: entry :: rest
    else if name = entry.1 then (name, value) :: rest
    else entry :: place name value rest

theorem mem_place {name : Text} {value : Setting} {entries : List (Text × Setting)}
    {entry : Text × Setting} (h : entry ∈ place name value entries) :
    entry = (name, value) ∨ entry ∈ entries := by
  fun_induction place name value entries with
  | case1 => simpa using h
  | case2 first rest _ => simpa using h
  | case3 first rest _ =>
    simp only [List.mem_cons] at h ⊢
    exact h.imp_right Or.inr
  | case4 first rest _ _ ih =>
    simp only [List.mem_cons] at h ⊢
    rcases h with h | h
    · exact Or.inr (Or.inl h)
    · exact (ih h).imp_right Or.inr

theorem ascending_place (name : Text) (value : Setting) {entries : List (Text × Setting)}
    (h : entries.Pairwise (fun a b => a.1 < b.1)) :
    (place name value entries).Pairwise (fun a b => a.1 < b.1) := by
  fun_induction place name value entries with
  | case1 => simp
  | case2 first rest hlt =>
    have hfirst := List.pairwise_cons.1 h
    refine List.pairwise_cons.2 ⟨fun entry hmem => ?_, h⟩
    rcases List.mem_cons.1 hmem with rfl | hmem
    · exact hlt
    · exact List.lt_trans hlt (hfirst.1 entry hmem)
  | case3 first rest _ heq =>
    have hfirst := List.pairwise_cons.1 h
    exact List.pairwise_cons.2 ⟨fun entry hmem => heq ▸ hfirst.1 entry hmem, hfirst.2⟩
  | case4 first rest hlt hne ih =>
    have hfirst := List.pairwise_cons.1 h
    refine List.pairwise_cons.2 ⟨fun entry hmem => ?_, ih hfirst.2⟩
    rcases mem_place hmem with rfl | hmem
    · exact Decidable.byContradiction fun h => hne (List.le_antisymm h hlt)
    · exact hfirst.1 entry hmem

/-- The settings with one of them set, whatever it was before. -/
def set (settings : Settings) (name : Text) (value : Setting) : Settings where
  entries := place name value settings.entries
  ascending := ascending_place name value settings.ascending

/-- The value of a setting. -/
def get? (settings : Settings) (name : Text) : Option Setting :=
  settings.entries.lookup name

theorem lookup_entry (entry : Text × Setting) (rest : List (Text × Setting)) (name : Text) :
    (entry :: rest).lookup name = if name = entry.1 then some entry.2 else rest.lookup name := by
  obtain ⟨key, value⟩ := entry
  by_cases h : name = key
  · simp [h]
  · rw [List.lookup_cons, beq_eq_false_iff_ne.2 h, if_neg h]

theorem lookup_place (name other : Text) (value : Setting) (entries : List (Text × Setting)) :
    (place name value entries).lookup other =
      if other = name then some value else entries.lookup other := by
  fun_induction place name value entries with
  | case1 => rw [lookup_entry]
  | case2 first rest _ => rw [lookup_entry]
  | case3 first rest _ heq =>
    rw [lookup_entry, lookup_entry, ← heq]
    by_cases h : other = name <;> simp [h]
  | case4 first rest _ hne ih =>
    rw [lookup_entry, lookup_entry, ih]
    by_cases h : other = name
    · rw [if_pos h, if_neg (h ▸ hne), if_pos h]
    · rw [if_neg h, if_neg h]

/-- The last value set is the value read, and other settings stay. -/
theorem get?_set (settings : Settings) (name other : Text) (value : Setting) :
    (settings.set name value).get? other =
      if other = name then some value else settings.get? other :=
  lookup_place name other value settings.entries

/-- The values of a setting that is a list. -/
def list? (settings : Settings) (name : Text) : Option (List Text) :=
  match settings.get? name with
  | some (.list values) => some values
  | _ => none

/-- Is there a setting of that name? -/
def has (settings : Settings) (name : Text) : Bool :=
  (settings.get? name).isSome

end Settings

end Casebook
