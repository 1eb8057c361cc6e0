import Casebook.Proofs.Except
import Casebook.Proofs.Json.Reading
import Casebook.Proofs.Json.Value

/-! # Tokens are skipped

    A string is skipped up to its closing quote (`skipString_content`), and if it
    is read at all, it is read up to there (`unread_of_readString`).  A number is
    skipped as far as it goes (`skipNumber_number`), so it needs something behind
    it that cannot belong to it (`Ends`); between brackets there always is.
-/

namespace Casebook.Json

/-! ## Strings -/

theorem skipString_plain {c : Char} (hcontrol : isControl c = false) (hquote : c ≠ '"')
    (hbackslash : c ≠ '\\') (rest : Text) : skipString (c :: rest) = skipString rest := by
  rw [skipString, if_neg hquote, if_neg hbackslash, hcontrol]
  rfl

theorem skipString_escape {text rest : Text} (h : skipEscape text = .ok rest) :
    skipString ('\\' :: text) = skipString rest := by
  rw [skipString, if_neg (by decide), if_pos rfl]
  split
  next stop hstop =>
    rw [h] at hstop
    cases hstop
  next rest' hskip =>
    rw [h] at hskip
    rw [Except.ok.inj hskip]

/-- **A string is skipped** up to its closing quote. -/
theorem skipString_content {content : Text} (h : Content content) (rest : Text) :
    skipString (content ++ '"' :: rest) = .ok rest := by
  induction h with
  | nil => rw [List.nil_append, skipString, if_pos rfl]
  | @plain c content hcontrol hquote hbackslash _ ih =>
    have hplain : isControl c = false := by simpa [isControl] using hcontrol
    rw [List.cons_append, skipString_plain hplain hquote hbackslash, ih]
  | @short letter c content hletter _ ih =>
    obtain ⟨hu, hshort⟩ := shortEscape?_table _ hletter
    have hskip : skipEscape (letter :: (content ++ '"' :: rest)) =
        .ok (content ++ '"' :: rest) := by
      simp [skipEscape, hu, hshort]
    rw [List.cons_append, List.cons_append, skipString_escape hskip, ih]
  | @unit value digits content hdigits _ ih =>
    have hskip : skipEscape ('u' :: (digits ++ (content ++ '"' :: rest))) =
        .ok (content ++ '"' :: rest) := by
      simp [skipEscape, readHexUnit_append hdigits, Except.map]
    rw [List.cons_append, List.cons_append, List.append_assoc, skipString_escape hskip, ih]

/-- Behind a leading surrogate an escape is read. -/
theorem exists_of_readTrailing {leading : Nat} {c : Char} {text rest : Text}
    (h : readTrailing leading text = .ok (c, rest)) :
    ∃ trailing digits, text = '\\' :: 'u' :: digits ∧
      readHexUnit digits = .ok (trailing, rest) := by
  unfold readTrailing at h
  split at h
  · cases h
  next first text =>
    split at h
    next hfirst =>
      split at h
      · cases h
      next second digits =>
        split at h
        next hsecond =>
          obtain ⟨⟨trailing, unread⟩, hunit, hpair⟩ := bind_eq_ok_iff.1 h
          dsimp only at hpair
          split at hpair
          · obtain ⟨-, rfl⟩ := Prod.mk.inj (Except.ok.inj hpair)
            exact ⟨trailing, digits, by rw [hfirst, hsecond], hunit⟩
          · cases hpair
        · cases h
    · cases h

/-- What is read as one character is skipped, a pair of surrogates as two escapes. -/
theorem skipString_of_readEscape {c : Char} {text rest : Text}
    (h : readEscape text = .ok (c, rest)) : skipString ('\\' :: text) = skipString rest := by
  have hunit {unit : Nat} {digits unread : Text} (hread : readHexUnit digits = .ok (unit, unread)) :
      skipString ('\\' :: 'u' :: digits) = skipString unread := by
    apply skipString_escape
    rw [skipEscape, if_pos rfl, hread]
    rfl
  unfold readEscape at h
  split at h
  · cases h
  next letter text =>
    split at h
    next hletter =>
      obtain ⟨⟨unit, unread⟩, hread, h⟩ := bind_eq_ok_iff.1 h
      dsimp only at h
      rw [hletter, hunit hread]
      split at h
      · cases h
      · split at h
        · obtain ⟨trailing, digits, rfl, htrailing⟩ := exists_of_readTrailing h
          exact hunit htrailing
        · cases h
          rfl
    next hletter =>
      split at h
      next c' hshort =>
        cases h
        apply skipString_escape
        rw [skipEscape, if_neg hletter, hshort]
        rfl
      · cases h

/-- **A string that is read is skipped to the same end.** -/
theorem skipString_of_readString {text value rest : Text}
    (h : readString text = .ok (value, rest)) : skipString text = .ok rest := by
  -- By the cases of the reader.  What it refuses need not be skipped, so only the
  -- end of the string, an escape and a plain character are left.
  fun_induction readString text generalizing value with
  | case1 => cases h
  | case2 unread =>
    cases h
    rw [skipString, if_pos rfl]
  | case3 => cases h
  | case4 text c unread hescape _ ih =>
    obtain ⟨⟨value, rest⟩, hread, heq⟩ := map_eq_ok_iff.1 h
    cases heq
    rw [skipString_of_readEscape hescape, ih hread]
  | case5 => cases h
  | case6 c unread hquote hbackslash hcontrol ih =>
    obtain ⟨⟨value, rest⟩, hread, heq⟩ := map_eq_ok_iff.1 h
    cases heq
    rw [skipString_plain (Bool.eq_false_iff.2 hcontrol) hquote hbackslash, ih hread]

/-- So reading ends where the string does, if it is read. -/
theorem unread_of_readString {content text rest unread : Text} (h : Content content)
    (hread : readString (content ++ '"' :: rest) = .ok (text, unread)) : unread = rest := by
  have hskip := skipString_of_readString hread
  rw [skipString_content h] at hskip
  exact (Except.ok.inj hskip).symm

/-! ## Numbers -/

theorem ne_of_isDigit {c d : Char} (hc : c.isDigit = true) (hd : d.isDigit = false) : c ≠ d := by
  rintro rfl
  rw [hc] at hd
  cases hd

/-- The text does not go on with a digit. -/
def NoDigit (text : Text) : Prop :=
  ∀ c ∈ text.head?, c.isDigit = false

/-- The text does not go on with anything that could belong to a number in front
    of it. -/
structure Ends (text : Text) : Prop where
  digit : NoDigit text
  point : ∀ c ∈ text.head?, c ≠ '.'
  letter : ∀ c ∈ text.head?, c ∉ ['e', 'E']

theorem digits_append {written rest : Text} (h : Digits written) (hrest : NoDigit rest) :
    digits (written ++ rest) = written ∧ afterDigits (written ++ rest) = rest := by
  unfold digits afterDigits
  rw [List.takeWhile_append_of_pos h, List.dropWhile_append_of_pos h]
  cases rest with
  | nil => simp
  | cons c rest =>
    have hc : c.isDigit = false := hrest c rfl
    simp [hc]

theorem digits_cons {c : Char} {written : Text} (hc : c.isDigit = true) (h : Digits written) :
    Digits (c :: written) :=
  List.forall_mem_cons.2 ⟨hc, h⟩

variable (cut : Problem)

theorem readWhole_append {whole rest : Text} (h : WholePart whole) (hrest : NoDigit rest) :
    readWhole cut (whole ++ rest) = .ok (whole, rest) := by
  cases h with
  | zero =>
    cases rest with
    | nil => rfl
    | cons c rest =>
      have hc : c.isDigit = false := hrest c rfl
      simp [readWhole, hc]
  | @digits c written hc hzero hwritten =>
    obtain ⟨htaken, hleft⟩ := digits_append (digits_cons hc hwritten) hrest
    rw [List.cons_append] at htaken hleft
    rw [List.cons_append]
    simp only [readWhole, hzero, hc, if_true, if_false, htaken, hleft]

theorem readFraction_append {fraction rest : Text} (h : FractionPart fraction)
    (hrest : NoDigit rest) (hpoint : ∀ c ∈ rest.head?, c ≠ '.') :
    ∃ read, readFraction cut (fraction ++ rest) = .ok (read, rest) := by
  cases h with
  | none =>
    refine ⟨[], ?_⟩
    cases rest with
    | nil => rfl
    | cons c rest => exact if_neg (hpoint c rfl)
  | @digits c written hc hwritten =>
    obtain ⟨htaken, hleft⟩ := digits_append (digits_cons hc hwritten) hrest
    rw [List.cons_append] at htaken hleft
    refine ⟨c :: written, ?_⟩
    simp only [List.cons_append, readFraction, hc, if_true, htaken, hleft]

theorem readExponentDigits_append {c : Char} {written rest : Text} (hc : c.isDigit = true)
    (hwritten : Digits written) (hrest : NoDigit rest) (negative : Bool) :
    ∃ read, readExponentDigits cut negative (c :: written ++ rest) = .ok (read, rest) := by
  obtain ⟨htaken, hleft⟩ := digits_append (digits_cons hc hwritten) hrest
  rw [List.cons_append] at htaken hleft ⊢
  exact ⟨_, by rw [readExponentDigits, if_pos hc, hleft]⟩

theorem readExponent_append {exponent rest : Text} (h : ExponentPart exponent)
    (hrest : Ends rest) :
    ∃ read, readExponent cut (exponent ++ rest) = .ok (read, rest) := by
  cases h with
  | none =>
    refine ⟨none, ?_⟩
    cases rest with
    | nil => rfl
    | cons c rest =>
      have hc := hrest.letter c rfl
      simp only [List.mem_cons, List.not_mem_nil, or_false, not_or] at hc
      simp [readExponent, hc]
  | @digits letter c sign written hletter hsign hc hwritten =>
    have hread := readExponentDigits_append cut hc hwritten hrest.digit
    have hopen : (letter = 'e' || letter = 'E') = true := by
      simpa using hletter
    have hplus : c ≠ '+' := ne_of_isDigit hc (by decide)
    have hminus : c ≠ '-' := ne_of_isDigit hc (by decide)
    simp only [List.mem_cons, List.not_mem_nil, or_false] at hsign
    rcases hsign with rfl | rfl | rfl
    -- Without a sign the first digit stands where one would, and is not taken for it.
    · obtain ⟨read, hread⟩ := hread false
      refine ⟨read, ?_⟩
      rw [← hread]
      simp only [List.cons_append, List.nil_append, readExponent, hopen, if_true, hplus, hminus,
        if_false]
    · obtain ⟨read, hread⟩ := hread false
      refine ⟨read, ?_⟩
      rw [← hread]
      simp [readExponent, hopen]
    · obtain ⟨read, hread⟩ := hread true
      refine ⟨read, ?_⟩
      rw [← hread]
      simp [readExponent, hopen]

/-- Neither a digit nor a point comes behind the fraction of a number, and no
    digit behind the whole. -/
theorem noDigit_parts {fraction exponent rest : Text} (hfraction : FractionPart fraction)
    (hexponent : ExponentPart exponent) (hrest : Ends rest) :
    NoDigit (exponent ++ rest) ∧ NoDigit (fraction ++ (exponent ++ rest)) ∧
      ∀ c ∈ (exponent ++ rest).head?, c ≠ '.' := by
  have hbehind : NoDigit (exponent ++ rest) ∧ ∀ c ∈ (exponent ++ rest).head?, c ≠ '.' := by
    cases hexponent with
    | none => exact ⟨hrest.digit, hrest.point⟩
    | @digits letter _ _ _ hletter _ _ _ =>
      have hplain : letter.isDigit = false ∧ letter ≠ '.' := by
        simp only [List.mem_cons, List.not_mem_nil, or_false] at hletter
        rcases hletter with rfl | rfl <;> decide
      refine ⟨?_, ?_⟩
      · intro c hc
        cases hc
        exact hplain.1
      · intro c hc
        cases hc
        exact hplain.2
  refine ⟨hbehind.1, ?_, hbehind.2⟩
  cases hfraction with
  | none => exact hbehind.1
  | digits _ _ =>
    intro c hc
    cases hc
    decide

/-- **A number is skipped** to where it ends. -/
theorem skipNumber_number {number rest : Text} (h : Number number) (hrest : Ends rest) :
    skipNumber (number ++ rest) = .ok rest := by
  obtain @⟨sign, whole, fraction, exponent, hsign, hwhole, hfraction, hexponent⟩ := h
  obtain ⟨hdigit, hwholeEnds, hpoint⟩ := noDigit_parts hfraction hexponent hrest
  obtain ⟨fractionRead, hreadFraction⟩ :=
    readFraction_append .invalidNumber hfraction hdigit hpoint
  obtain ⟨exponentRead, hreadExponent⟩ := readExponent_append .invalidNumber hexponent hrest
  -- Each part ends where the next one starts, whatever the sign in front.
  have hunsigned : ∀ negative, readUnsigned .invalidNumber negative
      (whole ++ (fraction ++ (exponent ++ rest))) =
        .ok ({ negative, whole, fraction := fractionRead, exponent := exponentRead }, rest) := by
    intro negative
    simp only [readUnsigned, readWhole_append .invalidNumber hwhole hwholeEnds, hreadFraction,
      hreadExponent, bind, Except.bind]
  have hstart : ∃ c more, whole = c :: more ∧ c ≠ '-' := by
    cases hwhole with
    | zero => exact ⟨'0', [], rfl, by decide⟩
    | @digits c more hc _ _ => exact ⟨c, more, rfl, ne_of_isDigit hc (by decide)⟩
  rw [List.append_assoc, List.append_assoc, List.append_assoc, skipNumber]
  simp only [List.mem_cons, List.not_mem_nil, or_false] at hsign
  rcases hsign with rfl | rfl
  · obtain ⟨c, more, rfl, hc⟩ := hstart
    have hread : readNumeral .invalidNumber (c :: more ++ (fraction ++ (exponent ++ rest))) =
        readUnsigned .invalidNumber false (c :: more ++ (fraction ++ (exponent ++ rest))) :=
      if_neg hc
    rw [List.nil_append, hread, hunsigned]
    rfl
  · have hread : readNumeral .invalidNumber ('-' :: (whole ++ (fraction ++ (exponent ++ rest)))) =
        readUnsigned .invalidNumber true (whole ++ (fraction ++ (exponent ++ rest))) := by
      simp only [readNumeral, if_true]
    rw [List.singleton_append, hread, hunsigned]
    rfl

/-! ## Where values start and end -/

theorem Number.start {number : Text} (h : Number number) :
    ∃ c more, number = c :: more ∧ (c = '-' ∨ c.isDigit = true) := by
  obtain @⟨sign, whole, fraction, exponent, hsign, hwhole, -, -⟩ := h
  simp only [List.mem_cons, List.not_mem_nil, or_false] at hsign
  rcases hsign with rfl | rfl
  · cases hwhole with
    | zero => exact ⟨'0', _, rfl, Or.inr (by decide)⟩
    | digits hc _ _ => exact ⟨_, _, rfl, Or.inr hc⟩
  · exact ⟨'-', _, rfl, Or.inl rfl⟩

/-- How a value starts: with a bracket, a quote, or a character that can start a
    word or a number. -/
inductive Start : Char → Prop
  | bracket (bracket : Bracket) : Start bracket.opening
  | quote : Start '"'
  | letter {c : Char} (h : c ∈ ['n', 't', 'f']) : Start c
  | number {c : Char} (h : c = '-' ∨ c.isDigit = true) : Start c

theorem Grammar.start {value : Text} (h : Grammar .value value) :
    ∃ c more, value = c :: more ∧ Start c := by
  cases h with
  | word hletters =>
    simp only [List.mem_cons, List.not_mem_nil, or_false] at hletters
    rcases hletters with rfl | rfl | rfl
    · exact ⟨'n', _, rfl, .letter (by decide)⟩
    · exact ⟨'t', _, rfl, .letter (by decide)⟩
    · exact ⟨'f', _, rfl, .letter (by decide)⟩
  | number hnumber =>
    obtain ⟨c, more, rfl, hc⟩ := hnumber.start
    exact ⟨c, more, rfl, .number hc⟩
  | string _ => exact ⟨'"', _, rfl, .quote⟩
  | @enclosed bracket _ _ => exact ⟨bracket.opening, _, rfl, .bracket bracket⟩

/-- No value starts with a blank or a closing bracket. -/
theorem Start.ne {c : Char} (h : Start c) : isSpace c = false ∧ ∀ bracket : Bracket,
    c ≠ bracket.closing := by
  cases h with
  | bracket bracket => cases bracket <;> exact ⟨by decide, by rintro ⟨⟩ <;> decide⟩
  | quote => exact ⟨by decide, by rintro ⟨⟩ <;> decide⟩
  | letter hc =>
    simp only [List.mem_cons, List.not_mem_nil, or_false] at hc
    rcases hc with rfl | rfl | rfl <;> exact ⟨by decide, by rintro ⟨⟩ <;> decide⟩
  | number hc =>
    rcases hc with rfl | hc
    · exact ⟨by decide, by rintro ⟨⟩ <;> decide⟩
    · have hspace : isSpace c = false := by
        simp [isSpace, ne_of_isDigit hc]
      refine ⟨hspace, ?_⟩
      intro bracket
      cases bracket <;> exact ne_of_isDigit hc (by decide)

/-- No number goes on with the character. -/
def EndsNumber (c : Char) : Prop :=
  c.isDigit = false ∧ c ≠ '.' ∧ c ∉ ['e', 'E']

instance (c : Char) : Decidable (EndsNumber c) :=
  inferInstanceAs (Decidable (_ ∧ _))

theorem ends_cons {c : Char} (hc : EndsNumber c) (rest : Text) : Ends (c :: rest) := by
  refine ⟨?_, ?_, ?_⟩
  · intro d hd
    cases hd
    exact hc.1
  · intro d hd
    cases hd
    exact hc.2.1
  · intro d hd
    cases hd
    exact hc.2.2

/-- Blanks do not change that. -/
theorem ends_append_cons {blanks : Text} (h : Space blanks) {c : Char} (hc : EndsNumber c)
    (rest : Text) : Ends (blanks ++ c :: rest) := by
  cases blanks with
  | nil => exact ends_cons hc rest
  | cons b blanks =>
    -- The first blank already ends a number.
    have hb := h b List.mem_cons_self
    simp only [List.mem_cons, List.not_mem_nil, or_false] at hb
    rcases hb with rfl | rfl | rfl | rfl <;> exact ends_cons (by decide) _

theorem ends_lead {lead : Text} (h : Lead false lead) (rest : Text) : Ends (lead ++ rest) := by
  cases h with
  | later hbefore _ =>
    rw [List.append_assoc, List.cons_append]
    exact ends_append_cons hbefore (by decide) _

theorem ends_closing {blanks : Text} (h : Space blanks) (bracket : Bracket) (rest : Text) :
    Ends (blanks ++ bracket.closing :: rest) :=
  ends_append_cons h (by cases bracket <;> decide) rest

end Casebook.Json
