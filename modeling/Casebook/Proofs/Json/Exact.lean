import Casebook.Proofs.Json.Skipping

/-! # Readers end where values end

    A reader that is given any value of the grammar may refuse it.  If it does
    not, it ends where the value ends (`Exact`).  So the values of a document are
    read one by one, and what is found in one of them does not depend on what the
    others are.
-/

namespace Casebook.Json

variable {α : Type}

/-- Where the reader accepts a value, it leaves what stands behind it. -/
def Exact (reader : Reader α) : Prop :=
  ∀ {blanks value rest unread : Text} {a : α}, Space blanks → Grammar .value value →
    reader (blanks ++ (value ++ rest)) = .ok (a, unread) → unread = rest

theorem wrongType_ne_ok {expected text rest : Text} {a : α} :
    wrongType expected text ≠ .ok (a, rest) := by
  intro h
  obtain ⟨found, -, hstop⟩ := bind_eq_ok_iff.1 h
  cases hstop

/-! ## Strings -/

/-- A value that starts with a quote is a string. -/
theorem Grammar.quoted {more : Text} (h : Grammar .value ('"' :: more)) :
    ∃ content, Content content ∧ more = content ++ ['"'] := by
  generalize hvalue : '"' :: more = value at h
  cases h with
  | word hletters =>
    subst hvalue
    simp at hletters
  | number hnumber =>
    obtain ⟨c, rest, hstart, hc⟩ := hnumber.start
    rw [← hvalue] at hstart
    cases hstart
    exact absurd hc (by decide)
  | string hcontent =>
    cases hvalue
    exact ⟨_, hcontent, rfl⟩
  | @enclosed bracket inner _ =>
    cases bracket <;> cases hvalue

/-- A value that starts with a bracket has members and the closing bracket. -/
theorem Grammar.bracketed {bracket : Bracket} {more : Text}
    (h : Grammar .value (bracket.opening :: more)) :
    ∃ inner, Grammar (.members bracket true) inner ∧ more = inner ++ [bracket.closing] := by
  generalize hvalue : bracket.opening :: more = value at h
  cases h with
  | word hletters =>
    subst hvalue
    cases bracket <;> simp [Bracket.opening] at hletters
  | number hnumber =>
    obtain ⟨c, rest, hstart, hc⟩ := hnumber.start
    rw [← hvalue] at hstart
    cases hstart
    have hopening : ∀ bracket : Bracket,
        ¬ (bracket.opening = '-' ∨ bracket.opening.isDigit = true) := by
      rintro ⟨⟩ <;> decide
    exact absurd hc (hopening bracket)
  | string hcontent =>
    cases bracket <;> cases hvalue
  | @enclosed other inner hinner =>
    cases bracket <;> cases other <;> cases hvalue <;> exact ⟨_, hinner, rfl⟩

theorem exact_readText : Exact readText := by
  intro blanks value rest unread text hblanks h hread
  obtain ⟨c, more, rfl, hstart⟩ := h.start
  rw [readText, List.cons_append, skipSpace_append_cons hblanks hstart.ne.1] at hread
  dsimp only at hread
  split at hread
  next hquote =>
    subst hquote
    obtain ⟨content, hcontent, rfl⟩ := h.quoted
    rw [List.append_assoc] at hread
    exact unread_of_readString hcontent hread
  · exact absurd hread wrongType_ne_ok

/-! ## Members -/

theorem Members.ends {member : Writing α} {values : List α} {later : Text}
    (h : Members member false values later) (bracket : Bracket) (rest : Text) :
    Ends (later ++ bracket.closing :: rest) := by
  cases h with
  | nil hblanks => exact ends_closing hblanks bracket rest
  | cons hlead _ _ =>
    rw [List.append_assoc, List.append_assoc]
    exact ends_lead hlead _

theorem nextElement_value {first : Bool} {lead value : Text} (hlead : Lead first lead)
    (h : Grammar .value value) (rest : Text) :
    nextElement first (lead ++ (value ++ rest)) = .ok (true, value ++ rest) := by
  obtain ⟨c, more, rfl, hstart⟩ := h.start
  exact nextElement_lead hlead hstart.ne.1 (hstart.ne.2 .list) _

/-- In front of an entry the entries do not end. -/
theorem more_of_nextEntry {first more : Bool} {lead written rest opened : Text} {entry : RawEntry}
    (hlead : Lead first lead) (h : AnyEntry entry written)
    (hnext : nextEntry first (lead ++ (written ++ rest)) = .ok (more, opened)) : more = true := by
  obtain ⟨-, -, before, after, -, -, rfl⟩ := h
  have hopen := nextEntry_lead hlead
    (entry.key ++ '"' :: (before ++ ':' :: (after ++ entry.value)) ++ rest)
  cases hopen.symm.trans hnext
  rfl

/-- **One entry.**  If its key is read, it is read to what it spells, and behind
    the colon stands its value. -/
theorem valued_of_anyEntry {first : Bool} {lead written rest opened key named valued : Text}
    {entry : RawEntry} (hlead : Lead first lead) (h : AnyEntry entry written)
    (hnext : nextEntry first (lead ++ (written ++ rest)) = .ok (true, opened))
    (hname : readString opened = .ok (key, named)) (hcolon : colon named = .ok valued) :
    (∃ blanks, Space blanks ∧ valued = blanks ++ (entry.value ++ rest)) ∧
      ∀ spelt, Spells spelt entry.key → key = spelt := by
  obtain ⟨hcontent, -, before, after, hbefore, hafter, rfl⟩ := h
  have htext : '"' :: entry.key ++ '"' :: (before ++ ':' :: (after ++ entry.value)) ++ rest =
      '"' :: (entry.key ++ '"' :: (before ++ ':' :: (after ++ (entry.value ++ rest)))) := by simp
  rw [htext, nextEntry_lead hlead] at hnext
  cases hnext
  constructor
  -- Whatever the key is read to, reading it ends at its closing quote.
  · rw [unread_of_readString hcontent hname, colon_append hbefore] at hcolon
    exact ⟨after, hafter, (Except.ok.inj hcolon).symm⟩
  · intro spelt hspells
    rw [readString_spells hspells] at hname
    cases hname
    rfl

theorem anyEntry_ne_nil {entry : RawEntry} {written : Text} (h : AnyEntry entry written) :
    written ≠ [] := by
  obtain ⟨-, -, before, after, -, -, rfl⟩ := h
  exact List.cons_ne_nil _ _

theorem anyElement_ne_nil {value written : Text} (h : AnyElement value written) :
    written ≠ [] := by
  obtain ⟨hvalue, rfl⟩ := h
  obtain ⟨c, more, rfl, -⟩ := hvalue.start
  exact List.cons_ne_nil _ _

/-! ## Brackets -/

theorem exists_of_between {bracket : Bracket} {members : Reader α} {text unread : Text} {a : α}
    (h : between bracket members text = .ok (a, unread)) :
    ∃ behind, members text = .ok (a, behind) ∧ close bracket behind = .ok unread := by
  unfold between at h
  split at h
  · cases h
  next value rest hmembers =>
    obtain ⟨behind, hclose, heq⟩ := map_eq_ok_iff.1 h
    cases heq
    exact ⟨rest, hmembers, hclose⟩

theorem close_append {blanks : Text} (h : Space blanks) (bracket : Bracket) (rest : Text) :
    close bracket (blanks ++ bracket.closing :: rest) = .ok rest := by
  simp [close, skipSpace_append_cons h (isSpace_bracket bracket).2]

/-- The closing bracket is not read where a further member follows. -/
theorem close_lead_ne_ok {lead rest unread : Text} (h : Lead false lead) (bracket : Bracket) :
    close bracket (lead ++ rest) ≠ .ok unread := by
  intro hclose
  cases h with
  | later hbefore _ =>
    have hspace : isSpace ',' = false := by decide
    have hcomma : ',' ≠ bracket.closing := by cases bracket <;> decide
    rw [List.append_assoc, List.cons_append, close, skipSpace_append_cons hbefore hspace] at hclose
    dsimp only at hclose
    rw [if_neg hcomma, if_pos rfl] at hclose
    cases hclose

/-- A reader between brackets ends behind the closing one, if the members are
    read up to it. -/
theorem unread_of_between {bracket : Bracket} {members : Reader α} {text rest unread : Text}
    {a : α} (hmembers : ∀ {b behind}, members text = .ok (b, behind) →
      behind = bracket.closing :: rest)
    (h : between bracket members text = .ok (a, unread)) : unread = rest := by
  obtain ⟨behind, hread, hclose⟩ := exists_of_between h
  rw [hmembers hread] at hclose
  have hhere := close_append (List.forall_mem_nil _) bracket rest
  rw [List.nil_append, hclose] at hhere
  exact Except.ok.inj hhere

/-! ## Arrays -/

/-- Elements that are read end there, or the first of them is read and then the
    others. -/
theorem readElements_cases {element : Reader α} {fuel : Nat} {first : Bool} {text behind : Text}
    {read : List α} (h : readElements element (fuel + 1) first text = .ok (read, behind)) :
    nextElement first text = .ok (false, behind) ∨
      ∃ opened head unread tail, nextElement first text = .ok (true, opened) ∧
        element opened = .ok (head, unread) ∧
        readElements element fuel false unread = .ok (tail, behind) := by
  obtain ⟨⟨more, opened⟩, hnext, h⟩ := bind_eq_ok_iff.1 h
  cases more with
  | false =>
    cases h
    exact Or.inl hnext
  | true =>
    obtain ⟨⟨head, unread⟩, hhead, h⟩ := bind_eq_ok_iff.1 h
    obtain ⟨⟨tail, behind⟩, htail, h⟩ := bind_eq_ok_iff.1 h
    cases h
    exact Or.inr ⟨opened, head, unread, tail, hnext, hhead, htail⟩

theorem readElements_exact {element : Reader α} (helement : Exact element) {first : Bool}
    {values : List Text} {inner rest behind : Text} {read : List α}
    (h : Members AnyElement first values inner) {fuel : Nat} (hfuel : values.length < fuel)
    (hread : readElements element fuel first (inner ++ ']' :: rest) = .ok (read, behind)) :
    behind = ']' :: rest := by
  -- By induction on the elements: each is left where it ends, in front of the next.
  induction h generalizing fuel read with
  | nil hblanks =>
    obtain ⟨fuel, rfl⟩ := Nat.exists_eq_add_one_of_ne_zero (Nat.ne_zero_of_lt hfuel)
    have hclosing := nextElement_closing hblanks
    rcases readElements_cases hread with hnext | ⟨_, _, _, _, hnext, -, -⟩
    · rw [hclosing] at hnext
      cases hnext
      rfl
    · rw [hclosing] at hnext
      cases hnext
  | @cons first lead written later value values hlead hvalue hrest ih =>
    obtain ⟨fuel, rfl⟩ := Nat.exists_eq_add_one_of_ne_zero (Nat.ne_zero_of_lt hfuel)
    obtain ⟨hvalue, rfl⟩ := hvalue
    have hopen := nextElement_value hlead hvalue (later ++ ']' :: rest)
    rw [List.append_assoc, List.append_assoc] at hread
    rcases readElements_cases hread with hnext | ⟨_, _, _, _, hnext, hhead, htail⟩
    · rw [hopen] at hnext
      cases hnext
    · rw [hopen] at hnext
      cases hnext
      rw [helement (List.forall_mem_nil _) hvalue hhead] at htail
      exact ih (Nat.lt_of_succ_lt_succ hfuel) htail

theorem exact_readList {element : Reader α} (helement : Exact element) :
    Exact (readList element) := by
  intro blanks value rest unread read hblanks h hread
  obtain ⟨c, more, rfl, hstart⟩ := h.start
  rw [readList, List.cons_append, skipSpace_append_cons hblanks hstart.ne.1] at hread
  dsimp only at hread
  split at hread
  next hbracket =>
    subst hbracket
    obtain ⟨inner, hinner, rfl⟩ := h.bracketed
    obtain ⟨values, hvalues⟩ := hinner.elements
    rw [List.append_assoc] at hread
    refine unread_of_between ?_ hread
    intro read behind
    exact readElements_exact helement hvalues (hvalues.length_lt anyElement_ne_nil _)
  · exact absurd hread wrongType_ne_ok

end Casebook.Json
