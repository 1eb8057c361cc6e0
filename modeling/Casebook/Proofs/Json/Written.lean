import Casebook.Json.Reader

/-! # What JSON documents write

    The part of the JSON grammar that configurations need: strings, arrays and
    objects, each as a relation between a value and the texts that write it
    (`Writing`).

    One value has many writings.  Between tokens there may be blanks, and every
    character of a string can be spelt in several ways (`Spelled`): as it is, by
    an escape of one letter, or by its code units in hexadecimal digits, of which
    a character beyond the first plane has two.
-/

namespace Casebook.Json

/-- Which texts write a value. -/
abbrev Writing (α : Type) : Type :=
  α → Text → Prop

/-! ## Blanks -/

/-- Blanks only, or nothing. -/
def Space (text : Text) : Prop :=
  ∀ c ∈ text, c ∈ [' ', '\t', '\n', '\r']

instance (text : Text) : Decidable (Space text) :=
  List.decidableBAll _ text

/-- The value with blanks around it. -/
def Padded {α : Type} (value : Writing α) : Writing α := fun a text =>
  ∃ before written after, Space before ∧ value a written ∧ Space after ∧
    text = before ++ written ++ after

/-! ## Strings -/

/-- The letters that stand behind a backslash, with the characters that they
    escape. -/
def shortEscapes : List (Char × Char) :=
  [('"', '"'), ('\\', '\\'), ('/', '/'), ('b', '\x08'), ('f', '\x0c'), ('n', '\n'), ('r', '\r'),
    ('t', '\t')]

/-- A hexadecimal digit in lower or upper case. -/
def HexDigit (value : Nat) (digit : Char) : Prop :=
  value < 16 ∧ (digit = Nat.digitChar value ∨ digit = (Nat.digitChar value).toUpper)

instance (value : Nat) (digit : Char) : Decidable (HexDigit value digit) :=
  inferInstanceAs (Decidable (_ ∧ _))

/-- The four hexadecimal digits of a code unit. -/
def HexUnit (unit : Nat) (digits : Text) : Prop :=
  ∃ a b c d, digits = [a, b, c, d] ∧ HexDigit (unit / 0x1000) a ∧ HexDigit (unit / 0x100 % 16) b ∧
    HexDigit (unit / 0x10 % 16) c ∧ HexDigit (unit % 16) d

/-- The spellings of a character in a string. -/
inductive Spelled (c : Char) : Text → Prop
  | plain (hcontrol : 0x20 ≤ c.toNat) (hquote : c ≠ '"') (hbackslash : c ≠ '\\') : Spelled c [c]
  | short {letter : Char} (h : (letter, c) ∈ shortEscapes) : Spelled c ['\\', letter]
  | unit {digits : Text} (h : HexUnit c.toNat digits) : Spelled c ('\\' :: 'u' :: digits)
  | pair {leading trailing : Text} (hbeyond : 0x10000 ≤ c.toNat)
      (hleading : HexUnit (0xD800 + (c.toNat - 0x10000) / 0x400) leading)
      (htrailing : HexUnit (0xDC00 + (c.toNat - 0x10000) % 0x400) trailing) :
      Spelled c ('\\' :: 'u' :: leading ++ '\\' :: 'u' :: trailing)

/-- The spellings of a text: those of its characters, one after the other. -/
inductive Spells : Text → Text → Prop
  | nil : Spells [] []
  | cons {c : Char} {spelling rest spellings : Text} (h : Spelled c spelling)
      (hrest : Spells rest spellings) : Spells (c :: rest) (spelling ++ spellings)

/-- May the character be written as it is? -/
def isPlain (c : Char) : Bool :=
  0x20 ≤ c.toNat && c != '"' && c != '\\'

theorem spells_plain {text : Text} (h : text.all isPlain = true) : Spells text text := by
  induction text with
  | nil => exact .nil
  | cons c rest ih =>
    simp only [List.all_cons, isPlain, Bool.and_eq_true, decide_eq_true_eq, bne_iff_ne] at h
    obtain ⟨⟨⟨hcontrol, hquote⟩, hbackslash⟩, hrest⟩ := h
    exact .cons (.plain hcontrol hquote hbackslash) (ih hrest)

/-- A string. -/
def Quoted : Writing Text := fun text written =>
  ∃ spellings, Spells text spellings ∧ written = '"' :: spellings ++ ['"']

/-! ## Arrays and objects -/

/-- What stands in front of a member: blanks, and among them a comma unless the
    member is the first. -/
inductive Lead : Bool → Text → Prop
  | first {blanks : Text} (h : Space blanks) : Lead true blanks
  | later {before after : Text} (hbefore : Space before) (hafter : Space after) :
      Lead false (before ++ ',' :: after)

/-- What stands in front of the closing bracket: members, each behind what leads
    to it, and blanks. -/
inductive Members {α : Type} (member : Writing α) : Bool → List α → Text → Prop
  | nil {first : Bool} {blanks : Text} (h : Space blanks) : Members member first [] blanks
  | cons {first : Bool} {lead written later : Text} {a : α} {rest : List α}
      (hlead : Lead first lead) (h : member a written) (hrest : Members member false rest later) :
      Members member first (a :: rest) (lead ++ written ++ later)

/-- Members between brackets. -/
def Enclosed {α : Type} (bracket : Bracket) (member : Writing α) : Writing (List α) :=
  fun values text => ∃ inner, Members member true values inner ∧
    text = bracket.opening :: inner ++ [bracket.closing]

/-- An array. -/
def Listed {α : Type} (element : Writing α) : Writing (List α) :=
  Enclosed .list element

/-- A member of an object: its key, a colon and its value. -/
def Entry {α : Type} (key : α → Text) (value : Writing α) : Writing α := fun a text =>
  ∃ name before after written, Quoted (key a) name ∧ Space before ∧ Space after ∧
    value a written ∧ text = name ++ before ++ ':' :: (after ++ written)

/-- An object. -/
def Keyed {α : Type} (key : α → Text) (value : Writing α) : Writing (List α) :=
  Enclosed .object (Entry key value)

/-! ## Everything can be written -/

theorem exists_hexUnit {unit : Nat} (h : unit < 0x10000) : ∃ digits, HexUnit unit digits := by
  have hdigit : ∀ value < 16, HexDigit value (Nat.digitChar value) := fun _ hvalue =>
    ⟨hvalue, Or.inl rfl⟩
  exact ⟨_, _, _, _, _, rfl, hdigit _ (by omega), hdigit _ (by omega), hdigit _ (by omega),
    hdigit _ (by omega)⟩

theorem exists_spelled (c : Char) : ∃ spelling, Spelled c spelling := by
  have hvalid : c.toNat < 0x110000 := by
    have hc : c.toNat < 0xD800 ∨ 0xDFFF < c.toNat ∧ c.toNat < 0x110000 := c.valid
    omega
  rcases Nat.lt_or_ge c.toNat 0x10000 with hfirst | hbeyond
  · obtain ⟨digits, hdigits⟩ := exists_hexUnit hfirst
    exact ⟨_, .unit hdigits⟩
  · obtain ⟨leading, hleading⟩ :=
      exists_hexUnit (show 0xD800 + (c.toNat - 0x10000) / 0x400 < 0x10000 by omega)
    obtain ⟨trailing, htrailing⟩ :=
      exists_hexUnit (show 0xDC00 + (c.toNat - 0x10000) % 0x400 < 0x10000 by omega)
    exact ⟨_, .pair hbeyond hleading htrailing⟩

theorem exists_quoted (text : Text) : ∃ written, Quoted text written := by
  have hspells : ∃ spellings, Spells text spellings := by
    induction text with
    | nil => exact ⟨[], .nil⟩
    | cons c rest ih =>
      obtain ⟨spelling, hspelling⟩ := exists_spelled c
      obtain ⟨spellings, hspellings⟩ := ih
      exact ⟨_, .cons hspelling hspellings⟩
  obtain ⟨spellings, hspells⟩ := hspells
  exact ⟨_, spellings, hspells, rfl⟩

theorem exists_enclosed {α : Type} (bracket : Bracket) {member : Writing α} {values : List α}
    (h : ∀ a ∈ values, ∃ written, member a written) :
    ∃ written, Enclosed bracket member values written := by
  have hlead : ∀ first, ∃ lead, Lead first lead := by
    intro first
    cases first with
    | false => exact ⟨_, .later (List.forall_mem_nil _) (List.forall_mem_nil _)⟩
    | true => exact ⟨_, .first (List.forall_mem_nil _)⟩
  have hmembers : ∀ first, ∃ inner, Members member first values inner := by
    induction values with
    | nil => exact fun first => ⟨[], .nil (List.forall_mem_nil _)⟩
    | cons a rest ih =>
      intro first
      obtain ⟨⟨written, hwritten⟩, hrest⟩ := List.forall_mem_cons.1 h
      obtain ⟨lead, hlead⟩ := hlead first
      obtain ⟨later, hlater⟩ := ih hrest false
      exact ⟨_, .cons hlead hwritten hlater⟩
  obtain ⟨inner, hinner⟩ := hmembers true
  exact ⟨_, inner, hinner, rfl⟩

theorem exists_entry {α : Type} (key : α → Text) {value : Writing α} {a : α}
    (h : ∃ written, value a written) : ∃ written, Entry key value a written := by
  obtain ⟨name, hname⟩ := exists_quoted (key a)
  obtain ⟨written, hwritten⟩ := h
  exact ⟨_, name, [], [], written, hname, List.forall_mem_nil _, List.forall_mem_nil _, hwritten,
    rfl⟩

end Casebook.Json
