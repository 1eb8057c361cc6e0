import Casebook.Proofs.Json.Written

/-! # JSON values

    The grammar of JSON, in full (`Grammar`): which texts are values, whatever
    they are values of.  It goes along with `Writing`, which says what a text is
    written for.

    An object with any entries, and an array with any elements, is also seen as
    the list of its members as they are written (`AnyEntry`, `AnyElement`).
-/

namespace Casebook.Json

/-! ## Strings -/

/-- What may stand between the quotes of a string.  An escape can have the digits
    of any code unit, so a surrogate may stand alone and the string stand for no
    text. -/
inductive Content : Text → Prop
  | nil : Content []
  | plain {c : Char} {rest : Text} (hcontrol : 0x20 ≤ c.toNat) (hquote : c ≠ '"')
      (hbackslash : c ≠ '\\') (hrest : Content rest) : Content (c :: rest)
  | short {letter c : Char} {rest : Text} (h : (letter, c) ∈ shortEscapes)
      (hrest : Content rest) : Content ('\\' :: letter :: rest)
  | unit {value : Nat} {digits rest : Text} (h : HexUnit value digits) (hrest : Content rest) :
      Content ('\\' :: 'u' :: (digits ++ rest))

/-- Every spelling of a text may stand between quotes. -/
theorem Spells.content {text spellings : Text} (h : Spells text spellings) :
    Content spellings := by
  induction h with
  | nil => exact .nil
  | cons hspelled hrest ih =>
    cases hspelled with
    | plain hcontrol hquote hbackslash => exact .plain hcontrol hquote hbackslash ih
    | short hletter => exact .short hletter ih
    | unit hdigits => exact .unit hdigits ih
    | pair hbeyond hleading htrailing =>
      simpa using Content.unit hleading (.unit htrailing ih)

/-! ## Numbers -/

/-- Digits only, or nothing. -/
def Digits (text : Text) : Prop :=
  ∀ c ∈ text, c.isDigit = true

/-- The digits before the point: a zero alone, or digits that begin with another
    one. -/
inductive WholePart : Text → Prop
  | zero : WholePart ['0']
  | digits {c : Char} {rest : Text} (hc : c.isDigit = true) (hzero : c ≠ '0')
      (hrest : Digits rest) : WholePart (c :: rest)

/-- The point and the digits behind it, or nothing. -/
inductive FractionPart : Text → Prop
  | none : FractionPart []
  | digits {c : Char} {rest : Text} (hc : c.isDigit = true) (hrest : Digits rest) :
      FractionPart ('.' :: c :: rest)

/-- The exponent with its letter, or nothing. -/
inductive ExponentPart : Text → Prop
  | none : ExponentPart []
  | digits {letter c : Char} {sign rest : Text} (hletter : letter ∈ ['e', 'E'])
      (hsign : sign ∈ [[], ['+'], ['-']]) (hc : c.isDigit = true) (hrest : Digits rest) :
      ExponentPart (letter :: (sign ++ c :: rest))

/-- A number. -/
inductive Number : Text → Prop
  | mk {sign whole fraction exponent : Text} (hsign : sign ∈ [[], ['-']])
      (hwhole : WholePart whole) (hfraction : FractionPart fraction)
      (hexponent : ExponentPart exponent) : Number (sign ++ (whole ++ (fraction ++ exponent)))

/-! ## Values -/

/-- What the grammar tells apart: values, and what stands between brackets from
    the first member or from a later one on. -/
inductive Phrase where
  | value
  | members (bracket : Bracket) (first : Bool)

/-- **The grammar**: the texts of each phrase. -/
inductive Grammar : Phrase → Text → Prop
  | word {letters : Text} (h : letters ∈ ["null".toList, "true".toList, "false".toList]) :
      Grammar .value letters
  | number {written : Text} (h : Number written) : Grammar .value written
  | string {content : Text} (h : Content content) : Grammar .value ('"' :: content ++ ['"'])
  | enclosed {bracket : Bracket} {inner : Text} (h : Grammar (.members bracket true) inner) :
      Grammar .value (bracket.opening :: inner ++ [bracket.closing])
  | nil {bracket : Bracket} {first : Bool} {blanks : Text} (h : Space blanks) :
      Grammar (.members bracket first) blanks
  | element {first : Bool} {lead written later : Text} (hlead : Lead first lead)
      (h : Grammar .value written) (hrest : Grammar (.members .list false) later) :
      Grammar (.members .list first) (lead ++ written ++ later)
  | entry {first : Bool} {lead content before after written later : Text} (hlead : Lead first lead)
      (hcontent : Content content) (hbefore : Space before) (hafter : Space after)
      (h : Grammar .value written) (hrest : Grammar (.members .object false) later) :
      Grammar (.members .object first)
        (lead ++ ('"' :: content ++ '"' :: (before ++ ':' :: (after ++ written))) ++ later)

/-! ## Members as they are written -/

/-- An element of an array: any value. -/
def AnyElement : Writing Text := fun value text =>
  Grammar .value value ∧ text = value

/-- An entry of an object as it is written. -/
structure RawEntry where
  /-- what stands between the quotes of its key -/
  key : Text
  /-- the text of its value -/
  value : Text

/-- An entry of an object: any key and any value. -/
def AnyEntry : Writing RawEntry := fun entry text =>
  Content entry.key ∧ Grammar .value entry.value ∧ ∃ before after, Space before ∧ Space after ∧
    text = '"' :: entry.key ++ '"' :: (before ++ ':' :: (after ++ entry.value))

/-- What stands between the brackets of an array are its elements. -/
theorem Grammar.elements {first : Bool} {inner : Text}
    (h : Grammar (.members .list first) inner) :
    ∃ values, Members AnyElement first values inner := by
  generalize hphrase : Phrase.members .list first = phrase at h
  induction h generalizing first with
  | nil hblanks =>
    cases hphrase
    exact ⟨[], .nil hblanks⟩
  | element hlead h hrest _ ih =>
    cases hphrase
    obtain ⟨values, hvalues⟩ := ih rfl
    exact ⟨_, .cons hlead ⟨h, rfl⟩ hvalues⟩
  | _ => cases hphrase

/-- What stands between the brackets of an object are its entries. -/
theorem Grammar.entries {first : Bool} {inner : Text}
    (h : Grammar (.members .object first) inner) :
    ∃ entries, Members AnyEntry first entries inner := by
  generalize hphrase : Phrase.members .object first = phrase at h
  induction h generalizing first with
  | nil hblanks =>
    cases hphrase
    exact ⟨[], .nil hblanks⟩
  | @entry _ _ content before after written _ hlead hcontent hbefore hafter h hrest _ ih =>
    cases hphrase
    obtain ⟨entries, hentries⟩ := ih rfl
    have hentry : AnyEntry ⟨content, written⟩ _ :=
      ⟨hcontent, h, before, after, hbefore, hafter, rfl⟩
    exact ⟨⟨content, written⟩ :: entries, .cons hlead hentry hentries⟩
  | _ => cases hphrase

/-- An object with any entries is a value. -/
theorem grammar_of_entries {entries : List RawEntry} {text : Text}
    (h : Enclosed .object AnyEntry entries text) : Grammar .value text := by
  obtain ⟨inner, hmembers, rfl⟩ := h
  refine .enclosed ?_
  generalize true = first at hmembers
  induction hmembers with
  | nil hblanks => exact .nil hblanks
  | cons hlead hentry _ ih =>
    obtain ⟨hcontent, hvalue, before, after, hbefore, hafter, rfl⟩ := hentry
    exact .entry hlead hcontent hbefore hafter hvalue ih

end Casebook.Json
