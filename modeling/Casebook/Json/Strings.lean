import Casebook.Json.Reader

/-! # Strings of JSON documents

    `readString` gives the characters that a string stands for.  `skipString`
    only looks for its end: there the digits of an escape must be digits, but
    surrogates need no partner.

    Both start behind the opening quote and end behind the closing one.
-/

namespace Casebook.Json

/-! ## Escapes -/

/-- The character that an escape of one letter stands for. -/
def shortEscape? (letter : Char) : Option Char :=
  match letter with
  | '"' => some '"'
  | '\\' => some '\\'
  | '/' => some '/'
  | 'b' => some '\x08'
  | 'f' => some '\x0c'
  | 'n' => some '\n'
  | 'r' => some '\r'
  | 't' => some '\t'
  | _ => none

/-- The value of a hexadecimal digit. -/
def hexDigit? (c : Char) : Option Nat :=
  if '0' ≤ c ∧ c ≤ '9' then some (c.toNat - '0'.toNat)
  else if 'a' ≤ c ∧ c ≤ 'f' then some (c.toNat - 'a'.toNat + 10)
  else if 'A' ≤ c ∧ c ≤ 'F' then some (c.toNat - 'A'.toNat + 10)
  else none

/-- The value of four hexadecimal digits. -/
def hexValue? (a b c d : Char) : Option Nat := do
  let high := (← hexDigit? a) * 16 + (← hexDigit? b)
  let low := (← hexDigit? c) * 16 + (← hexDigit? d)
  return high * 256 + low

/-- Four bytes that are no digits of an escape. -/
def stopInDigits {α : Type} (rest : Text) : Except Stop α :=
  .error { problem := .invalidEscape, rest, ahead := 4 }

/-- Reads the four digits of an escape.  Four bytes are taken in any case. -/
def readHexUnit : Reader Nat := fun text =>
  if byteLength (text.take 4) < 4 then stopAt .endInString []
  else
    match text with
    | a :: b :: c :: d :: rest =>
      match hexValue? a b c d with
      | some unit => .ok (unit, rest)
      | none => stopInDigits text
    | _ => stopInDigits text

/-- The first halves of surrogate pairs. -/
def isLeading (unit : Nat) : Bool :=
  0xD800 ≤ unit && unit ≤ 0xDBFF

/-- The second halves of surrogate pairs. -/
def isTrailing (unit : Nat) : Bool :=
  0xDC00 ≤ unit && unit ≤ 0xDFFF

/-- The character of a surrogate pair. -/
def pairChar (leading trailing : Nat) : Char :=
  Char.ofNat ((leading - 0xD800) * 0x400 + (trailing - 0xDC00) + 0x10000)

/-- Reads what must follow the escape of a leading surrogate: the escape of a
    trailing one. -/
def readTrailing (leading : Nat) : Reader Char := fun text =>
  match text with
  | [] => stopAt .endInString []
  | c :: rest =>
    if c = '\\' then
      match rest with
      | [] => stopAt .endInString []
      | c :: rest =>
        if c = 'u' then do
          let (trailing, rest) ← readHexUnit rest
          if isTrailing trailing then .ok (pairChar leading trailing, rest)
          else stopAt .loneSurrogate rest
        else stopPast .unexpectedEndOfHexEscape (c :: rest)
    else stopPast .unexpectedEndOfHexEscape (c :: rest)

/-- Reads the character of an escape with digits, from the digits on. -/
def readHexEscape : Reader Char := fun text => do
  let (unit, rest) ← readHexUnit text
  if isTrailing unit then stopAt .loneSurrogate rest
  else if isLeading unit then readTrailing unit rest
  else .ok (Char.ofNat unit, rest)

/-- Reads the character of an escape, from behind the backslash. -/
def readEscape : Reader Char := fun text =>
  match text with
  | [] => stopAt .endInString []
  | letter :: rest =>
    if letter = 'u' then readHexEscape rest
    else
      match shortEscape? letter with
      | some c => .ok (c, rest)
      | none => stopPast .invalidEscape (letter :: rest)

/-- Skips an escape, from behind the backslash. -/
def skipEscape (text : Text) : Except Stop Text :=
  match text with
  | [] => stopAt .endInString []
  | letter :: rest =>
    if letter = 'u' then (readHexUnit rest).map Prod.snd
    else if (shortEscape? letter).isSome then .ok rest
    else stopPast .invalidEscape (letter :: rest)

/-! ### Every escape has a length -/

theorem length_lt_of_readHexUnit {text rest : Text} {unit : Nat}
    (h : readHexUnit text = .ok (unit, rest)) : rest.length < text.length := by
  simp only [readHexUnit] at h
  split at h
  · simp [stopAt] at h
  · split at h
    · split at h
      · simp only [Except.ok.injEq, Prod.mk.injEq] at h
        simp only [← h.2, List.length_cons]
        omega
      · simp [stopInDigits] at h
    · simp [stopInDigits] at h

theorem length_lt_of_readTrailing {leading : Nat} {text rest : Text} {c : Char}
    (h : readTrailing leading text = .ok (c, rest)) : rest.length < text.length := by
  simp only [readTrailing] at h
  split at h
  · simp [stopAt] at h
  · split at h
    · split at h
      · simp [stopAt] at h
      · split at h
        next text _ =>
          cases hunit : readHexUnit text with
          | error stop => simp [hunit, bind, Except.bind] at h
          | ok read =>
            obtain ⟨unit, unread⟩ := read
            have hlt := length_lt_of_readHexUnit hunit
            simp only [hunit, bind, Except.bind] at h
            split at h
            · simp only [Except.ok.injEq, Prod.mk.injEq] at h
              simp only [← h.2, List.length_cons]
              omega
            · simp [stopAt] at h
        · simp [stopPast] at h
    · simp [stopPast] at h

theorem length_lt_of_readHexEscape {text rest : Text} {c : Char}
    (h : readHexEscape text = .ok (c, rest)) : rest.length < text.length := by
  simp only [readHexEscape] at h
  cases hunit : readHexUnit text with
  | error stop => simp [hunit, bind, Except.bind] at h
  | ok read =>
    obtain ⟨unit, unread⟩ := read
    have hlt := length_lt_of_readHexUnit hunit
    simp only [hunit, bind, Except.bind] at h
    split at h
    · simp [stopAt] at h
    · split at h
      · exact Nat.lt_trans (length_lt_of_readTrailing h) hlt
      · simp only [Except.ok.injEq, Prod.mk.injEq] at h
        exact h.2 ▸ hlt

theorem length_lt_of_readEscape {text rest : Text} {c : Char}
    (h : readEscape text = .ok (c, rest)) : rest.length < text.length := by
  simp only [readEscape] at h
  split at h
  · simp [stopAt] at h
  · split at h
    · exact Nat.lt_succ_of_lt (length_lt_of_readHexEscape h)
    · split at h
      · simp only [Except.ok.injEq, Prod.mk.injEq] at h
        simp [h.2]
      · simp [stopPast] at h

theorem length_lt_of_skipEscape {text rest : Text} (h : skipEscape text = .ok rest) :
    rest.length < text.length := by
  simp only [skipEscape] at h
  split at h
  · simp [stopAt] at h
  · split at h
    next text _ =>
      cases hunit : readHexUnit text with
      | error stop => simp [hunit, Except.map] at h
      | ok read =>
        obtain ⟨unit, unread⟩ := read
        have hlt := length_lt_of_readHexUnit hunit
        simp only [hunit, Except.map, Except.ok.injEq] at h
        simp only [← h, List.length_cons]
        omega
    · split at h
      · simp only [Except.ok.injEq] at h
        simp [h]
      · simp [stopPast] at h

/-! ## Strings -/

/-- Is the character refused in a string unless it is escaped? -/
def isControl (c : Char) : Bool :=
  c.toNat < 0x20

/-- Reads the characters of a string. -/
def readString (text : Text) : Except Stop (Text × Text) :=
  match text with
  | [] => stopAt .endInString []
  | c :: rest =>
    if c = '"' then .ok ([], rest)
    else if c = '\\' then
      match _h : readEscape rest with
      | .error stop => .error stop
      | .ok (c, rest) => (readString rest).map fun read => (c :: read.1, read.2)
    else if isControl c then stopPast .controlCharacter (c :: rest)
    else (readString rest).map fun read => (c :: read.1, read.2)
termination_by text.length
decreasing_by
  · exact Nat.lt_succ_of_lt (length_lt_of_readEscape ‹_›)
  · simp

/-- Skips the rest of a string. -/
def skipString (text : Text) : Except Stop Text :=
  match text with
  | [] => stopAt .endInString []
  | c :: rest =>
    if c = '"' then .ok rest
    else if c = '\\' then
      match _h : skipEscape rest with
      | .error stop => .error stop
      | .ok rest => skipString rest
    else if isControl c then stopAt .controlCharacter (c :: rest)
    else skipString rest
termination_by text.length
decreasing_by
  · exact Nat.lt_succ_of_lt (length_lt_of_skipEscape ‹_›)
  · simp

end Casebook.Json
