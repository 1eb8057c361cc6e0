import Casebook.Json.Typed
import Casebook.Proofs.Json.Written
import Mathlib.Data.List.TakeWhile

/-! # Readers read what is written

    Every writing of a string, an array or an object is read to the value that
    it writes, up to its end and with nothing behind it touched.

    `Reads` is this law for one reader.  The loops of the readers follow the
    members of an array or object: `Members` is what they are by induction on.
    An entry of an object is taken apart in the same way by all of them
    (`exists_of_entry`).
-/

namespace Casebook.Json

variable {α : Type}

/-! ## Blanks -/

theorem isSpace_eq_true_iff {c : Char} : isSpace c = true ↔ c ∈ [' ', '\t', '\n', '\r'] := by
  simp only [isSpace, Bool.or_eq_true, beq_iff_eq, List.mem_cons, List.not_mem_nil, or_false]
  grind

theorem skipSpace_append {blanks : Text} (h : Space blanks) (text : Text) :
    skipSpace (blanks ++ text) = skipSpace text :=
  List.dropWhile_append_of_pos fun c hc => isSpace_eq_true_iff.2 (h c hc)

theorem skipSpace_cons {c : Char} (h : isSpace c = false) (text : Text) :
    skipSpace (c :: text) = c :: text :=
  List.dropWhile_cons_of_neg (by simp [h])

theorem skipSpace_append_cons {blanks : Text} (h : Space blanks) {c : Char} (hc : isSpace c = false)
    (text : Text) : skipSpace (blanks ++ c :: text) = c :: text := by
  rw [skipSpace_append h, skipSpace_cons hc]

/-! ## Escapes -/

theorem hexDigit_table : ∀ value < 16,
    (hexDigit? (Nat.digitChar value) = some value ∧ (Nat.digitChar value).utf8Size = 1) ∧
      hexDigit? (Nat.digitChar value).toUpper = some value ∧
        (Nat.digitChar value).toUpper.utf8Size = 1 := by
  decide

theorem HexDigit.read {value : Nat} {digit : Char} (h : HexDigit value digit) :
    hexDigit? digit = some value ∧ digit.utf8Size = 1 := by
  obtain ⟨hvalue, rfl | rfl⟩ := h
  · exact (hexDigit_table value hvalue).1
  · exact (hexDigit_table value hvalue).2

/-- Four digits are read to their code unit. -/
theorem readHexUnit_append {unit : Nat} {digits : Text} (h : HexUnit unit digits) (rest : Text) :
    readHexUnit (digits ++ rest) = .ok (unit, rest) := by
  obtain ⟨a, b, c, d, rfl, ha, hb, hc, hd⟩ := h
  have hvalue : hexValue? a b c d = some unit := by
    simp only [hexValue?, ha.read.1, hb.read.1, hc.read.1, hd.read.1, Option.pure_def,
      Option.bind_eq_bind, Option.bind_some, Option.some.injEq]
    omega
  have hbytes : byteLength [a, b, c, d] = 4 := by
    simp [byteLength, ha.read.2, hb.read.2, hc.read.2, hd.read.2]
  simp [readHexUnit, hbytes, hvalue]

theorem shortEscape?_table : ∀ escape ∈ shortEscapes,
    escape.1 ≠ 'u' ∧ shortEscape? escape.1 = some escape.2 := by
  decide

/-- A character is no surrogate. -/
theorem not_surrogate (c : Char) : isTrailing c.toNat = false ∧ isLeading c.toNat = false := by
  have hvalid : c.toNat < 0xD800 ∨ 0xDFFF < c.toNat ∧ c.toNat < 0x110000 := c.valid
  simp only [isTrailing, isLeading, Bool.and_eq_false_iff, decide_eq_false_iff_not]
  omega

/-- The code units of a character beyond the first plane are a pair of
    surrogates. -/
theorem pairChar_units {c : Char} (h : 0x10000 ≤ c.toNat) :
    isTrailing (0xD800 + (c.toNat - 0x10000) / 0x400) = false ∧
      isLeading (0xD800 + (c.toNat - 0x10000) / 0x400) = true ∧
      isTrailing (0xDC00 + (c.toNat - 0x10000) % 0x400) = true ∧
      pairChar (0xD800 + (c.toNat - 0x10000) / 0x400) (0xDC00 + (c.toNat - 0x10000) % 0x400) =
        c := by
  have hvalid : c.toNat < 0xD800 ∨ 0xDFFF < c.toNat ∧ c.toNat < 0x110000 := c.valid
  refine ⟨?_, ?_, ?_, ?_⟩
  · simp only [isTrailing, Bool.and_eq_false_iff, decide_eq_false_iff_not]
    omega
  · simp only [isLeading, Bool.and_eq_true, decide_eq_true_eq]
    omega
  · simp only [isTrailing, Bool.and_eq_true, decide_eq_true_eq]
    omega
  · have hvalue : (0xD800 + (c.toNat - 0x10000) / 0x400 - 0xD800) * 0x400 +
        (0xDC00 + (c.toNat - 0x10000) % 0x400 - 0xDC00) + 0x10000 = c.toNat := by omega
    rw [pairChar, hvalue, Char.ofNat_toNat]

/-! ## Strings -/

/-- A character that is not escaped stands for itself. -/
theorem readString_plain {c : Char} (hcontrol : 0x20 ≤ c.toNat) (hquote : c ≠ '"')
    (hbackslash : c ≠ '\\') (rest : Text) :
    readString (c :: rest) = (readString rest).map fun read => (c :: read.1, read.2) := by
  have hplain : isControl c = false := by simpa [isControl] using hcontrol
  rw [readString, if_neg hquote, if_neg hbackslash, hplain]
  rfl

/-- An escape stands for the character that it is read to. -/
theorem readString_escape {c : Char} {text rest : Text} (h : readEscape text = .ok (c, rest)) :
    readString ('\\' :: text) = (readString rest).map fun read => (c :: read.1, read.2) := by
  rw [readString, if_neg (by decide), if_pos rfl]
  split
  next stop hstop =>
    rw [h] at hstop
    cases hstop
  next c' rest' hread =>
    rw [h] at hread
    obtain ⟨rfl, rfl⟩ := Prod.mk.inj (Except.ok.inj hread)
    rfl

/-- **Every spelling of a character is read to it.** -/
theorem readString_spelled {c : Char} {spelling : Text} (h : Spelled c spelling) (rest : Text) :
    readString (spelling ++ rest) = (readString rest).map fun read => (c :: read.1, read.2) := by
  cases h with
  | plain hcontrol hquote hbackslash => exact readString_plain hcontrol hquote hbackslash rest
  | @short letter hmem =>
    obtain ⟨hu, hletter⟩ := shortEscape?_table _ hmem
    refine readString_escape ?_
    simp [readEscape, hu, hletter]
  | @unit digits hdigits =>
    obtain ⟨htrailing, hleading⟩ := not_surrogate c
    refine readString_escape ?_
    show readHexEscape (digits ++ rest) = _
    simp [readHexEscape, readHexUnit_append hdigits, htrailing, hleading, bind, Except.bind]
  | @pair leading trailing hbeyond hleading htrailing =>
    obtain ⟨hfirst, hlead, htrail, hpair⟩ := pairChar_units hbeyond
    have hescape :
        readHexEscape (leading ++ '\\' :: 'u' :: (trailing ++ rest)) = .ok (c, rest) := by
      simp [readHexEscape, readHexUnit_append hleading, readTrailing,
        readHexUnit_append htrailing, hfirst, hlead, htrail, hpair, bind, Except.bind]
    have htext : ('\\' :: 'u' :: leading ++ '\\' :: 'u' :: trailing) ++ rest =
        '\\' :: 'u' :: (leading ++ '\\' :: 'u' :: (trailing ++ rest)) := by simp
    rw [htext]
    exact readString_escape hescape

/-- Every spelling of a text is read to it, up to the closing quote. -/
theorem readString_spells {text spellings : Text} (h : Spells text spellings) (rest : Text) :
    readString (spellings ++ '"' :: rest) = .ok (text, rest) := by
  induction h with
  | nil => rw [List.nil_append, readString, if_pos rfl]
  | cons hspelled hrest ih =>
    rw [List.append_assoc, readString_spelled hspelled, ih]
    rfl

/-! ## Readers of what is written -/

/-- The reader reads every writing of a value to it, with any blanks in front and
    anything behind. -/
def Reads (reader : Reader α) (writing : Writing α) : Prop :=
  ∀ {blanks written : Text} {a : α}, Space blanks → writing a written → ∀ rest,
    reader (blanks ++ (written ++ rest)) = .ok (a, rest)

/-- Every writing starts with a character that neither is a blank nor closes an
    array. -/
def Opens (writing : Writing α) : Prop :=
  ∀ {written : Text} {a : α}, writing a written →
    ∃ c rest, written = c :: rest ∧ isSpace c = false ∧ c ≠ ']'

theorem Opens.ne_nil {writing : Writing α} (h : Opens writing) {written : Text} {a : α}
    (hwritten : writing a written) : written ≠ [] := by
  obtain ⟨c, rest, rfl, -⟩ := h hwritten
  exact List.cons_ne_nil c rest

/-- A value is read where it starts. -/
theorem Reads.here {reader : Reader α} {writing : Writing α} (h : Reads reader writing)
    {written : Text} {a : α} (hwritten : writing a written) (rest : Text) :
    reader (written ++ rest) = .ok (a, rest) :=
  h (List.forall_mem_nil _) hwritten rest

/-- The value of a document may have blanks around it. -/
theorem Reads.readDocument {reader : Reader α} {writing : Writing α} (h : Reads reader writing)
    {document : Text} {a : α} (hdocument : Padded writing a document) :
    readDocument reader document = .ok a := by
  obtain ⟨before, written, after, hbefore, hwritten, hafter, rfl⟩ := hdocument
  have hend : skipSpace after = [] := by simpa [skipSpace] using skipSpace_append hafter []
  have hread := h hbefore hwritten after
  rw [List.append_assoc]
  simp [Json.readDocument, hread, hend, bind, Except.bind, Except.mapError]

theorem opens_quoted : Opens Quoted := by
  rintro written text ⟨spellings, -, rfl⟩
  exact ⟨'"', spellings ++ ['"'], rfl, by decide, by decide⟩

/-- **Strings are read.** -/
theorem reads_readText : Reads readText Quoted := by
  rintro blanks written text hblanks ⟨spellings, hspells, rfl⟩ rest
  have htext : '"' :: spellings ++ ['"'] ++ rest = '"' :: (spellings ++ '"' :: rest) := by simp
  rw [htext, readText, skipSpace_append_cons hblanks (by decide)]
  exact readString_spells hspells rest

/-! ## Brackets -/

theorem isSpace_bracket (bracket : Bracket) :
    isSpace bracket.opening = false ∧ isSpace bracket.closing = false := by
  cases bracket with
  | list => decide
  | object => decide

/-- What is enclosed stands between its brackets, whatever follows. -/
theorem exists_of_enclosed {bracket : Bracket} {member : Writing α} {values : List α}
    {blanks written : Text} (hblanks : Space blanks) (h : Enclosed bracket member values written)
    (rest : Text) :
    ∃ inner, Members member true values inner ∧
      skipSpace (blanks ++ (written ++ rest)) =
        bracket.opening :: (inner ++ bracket.closing :: rest) := by
  obtain ⟨inner, hmembers, rfl⟩ := h
  refine ⟨inner, hmembers, ?_⟩
  rw [List.append_assoc, List.cons_append,
    skipSpace_append_cons hblanks (isSpace_bracket bracket).1]
  rfl

/-- What is in front of the closing bracket is read, and then the bracket. -/
theorem between_eq_ok {bracket : Bracket} {members : Reader α} {text rest : Text} {a : α}
    (h : members text = .ok (a, bracket.closing :: rest)) :
    between bracket members text = .ok (a, rest) := by
  simp [between, h, close, skipSpace_cons (isSpace_bracket bracket).2, Except.map]

/-! ## Members -/

/-- Every member takes a character. -/
theorem Members.length_lt {member : Writing α}
    (hmember : ∀ {a written}, member a written → written ≠ []) {first : Bool} {values : List α}
    {inner : Text} (h : Members member first values inner) (rest : Text) :
    values.length < (inner ++ rest).length + 1 := by
  have hlength : values.length ≤ inner.length := by
    induction h with
    | nil => exact Nat.zero_le _
    | cons hlead hwritten hrest ih =>
      have hpos := List.length_pos_iff.2 (hmember hwritten)
      simp only [List.length_cons, List.length_append]
      omega
  rw [List.length_append]
  omega

theorem nextElement_lead {first : Bool} {lead : Text} (h : Lead first lead) {c : Char}
    (hspace : isSpace c = false) (hclosing : c ≠ ']') (rest : Text) :
    nextElement first (lead ++ c :: rest) = .ok (true, c :: rest) := by
  cases h with
  | first hblanks => simp [nextElement, skipSpace_append_cons hblanks hspace, hclosing]
  | @later before after hbefore hafter =>
    have hcomma : isSpace ',' = false := by decide
    rw [List.append_assoc, List.cons_append]
    simp [nextElement, skipSpace_append_cons hbefore hcomma, skipSpace_append_cons hafter hspace,
      hclosing]

theorem nextElement_closing {blanks : Text} (h : Space blanks) (first : Bool) (rest : Text) :
    nextElement first (blanks ++ ']' :: rest) = .ok (false, ']' :: rest) := by
  have hclosing : isSpace ']' = false := by decide
  simp [nextElement, skipSpace_append_cons h hclosing]

theorem nextEntry_lead {first : Bool} {lead : Text} (h : Lead first lead) (rest : Text) :
    nextEntry first (lead ++ '"' :: rest) = .ok (true, rest) := by
  have hquote : isSpace '"' = false := by decide
  cases h with
  | first hblanks => simp [nextEntry, skipSpace_append_cons hblanks hquote]
  | @later before after hbefore hafter =>
    have hcomma : isSpace ',' = false := by decide
    rw [List.append_assoc, List.cons_append]
    simp [nextEntry, skipSpace_append_cons hbefore hcomma, skipSpace_append_cons hafter hquote]

theorem nextEntry_closing {blanks : Text} (h : Space blanks) (first : Bool) (rest : Text) :
    nextEntry first (blanks ++ '\x7d' :: rest) = .ok (false, '\x7d' :: rest) := by
  have hclosing : isSpace '\x7d' = false := by decide
  simp [nextEntry, skipSpace_append_cons h hclosing]

theorem colon_append {blanks : Text} (h : Space blanks) (rest : Text) :
    colon (blanks ++ ':' :: rest) = .ok rest := by
  have hcolon : isSpace ':' = false := by decide
  simp [colon, skipSpace_append_cons h hcolon]

/-- **One entry.**  Its key is found, and behind the colon its value. -/
theorem exists_of_entry {key : α → Text} {value : Writing α} {first : Bool} {lead written : Text}
    {a : α} (hlead : Lead first lead) (h : Entry key value a written) (rest : Text) :
    ∃ opened named blanks valued, nextEntry first (lead ++ (written ++ rest)) = .ok (true, opened) ∧
      readString opened = .ok (key a, named) ∧ colon named = .ok (blanks ++ (valued ++ rest)) ∧
      Space blanks ∧ value a valued := by
  obtain ⟨-, before, after, valued, ⟨spellings, hspells, rfl⟩, hbefore, hafter, hvalued, rfl⟩ := h
  have htext : '"' :: spellings ++ ['"'] ++ before ++ ':' :: (after ++ valued) ++ rest =
      '"' :: (spellings ++ '"' :: (before ++ ':' :: (after ++ (valued ++ rest)))) := by simp
  rw [htext]
  exact ⟨_, _, after, valued, nextEntry_lead hlead _, readString_spells hspells _,
    colon_append hbefore _, hafter, hvalued⟩

theorem entry_ne_nil {key : α → Text} {value : Writing α} {a : α} {written : Text}
    (h : Entry key value a written) : written ≠ [] := by
  obtain ⟨-, before, after, valued, ⟨spellings, -, rfl⟩, -, -, -, rfl⟩ := h
  simp

/-! ## Arrays -/

/-- The elements are read one after the other. -/
theorem readElements_members {element : Reader α} {member : Writing α}
    (hreads : Reads element member) (hopens : Opens member) {first : Bool} {values : List α}
    {inner : Text} (h : Members member first values inner) {fuel : Nat}
    (hfuel : values.length < fuel) (rest : Text) :
    readElements element fuel first (inner ++ ']' :: rest) = .ok (values, ']' :: rest) := by
  induction h generalizing fuel with
  | nil hblanks =>
    obtain ⟨fuel, rfl⟩ := Nat.exists_eq_add_one_of_ne_zero (Nat.ne_zero_of_lt hfuel)
    simp [readElements, nextElement_closing hblanks, bind, Except.bind]
  | @cons first lead written later a values hlead hwritten hrest ih =>
    obtain ⟨fuel, rfl⟩ := Nat.exists_eq_add_one_of_ne_zero (Nat.ne_zero_of_lt hfuel)
    obtain ⟨c, tail, hstart, hspace, hclosing⟩ := hopens hwritten
    have hnext : nextElement first (lead ++ (written ++ (later ++ ']' :: rest))) =
        .ok (true, written ++ (later ++ ']' :: rest)) := by
      rw [hstart]
      exact nextElement_lead hlead hspace hclosing _
    have hlater := ih (Nat.lt_of_succ_lt_succ hfuel)
    rw [List.append_assoc, List.append_assoc]
    simp [readElements, hnext, hreads.here hwritten, hlater, bind, Except.bind]

/-- **Arrays are read** if their elements are. -/
theorem reads_readList {element : Reader α} {member : Writing α} (hreads : Reads element member)
    (hopens : Opens member) : Reads (readList element) (Listed member) := by
  intro blanks written values hblanks hwritten rest
  obtain ⟨inner, hmembers, hskip⟩ := exists_of_enclosed hblanks hwritten rest
  have hfuel := hmembers.length_lt hopens.ne_nil (']' :: rest)
  rw [readList, hskip]
  exact between_eq_ok (readElements_members hreads hopens hmembers hfuel rest)

end Casebook.Json
