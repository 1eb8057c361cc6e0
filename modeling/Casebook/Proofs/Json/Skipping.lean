import Casebook.Proofs.Json.Tokens

/-! # Values are skipped

    Every value of the grammar is skipped up to its end, whatever stands behind it
    (`skipValue_value`).

    The machine that skips values keeps the open brackets in a list.  That it is
    taken over a phrase of the grammar is an induction on the grammar
    (`skipSteps_phrase`): the steps for a value leave the open brackets as they
    were, and fewer than two for each character are needed.
-/

namespace Casebook.Json

/-! ## Values -/

theorem readWord_append (letters rest : Text) : readWord letters (letters ++ rest) = .ok rest := by
  induction letters with
  | nil => rfl
  | cons letter letters ih => rw [List.cons_append, readWord, if_pos rfl, ih]

theorem skipScalar_number {c : Char} (h : c = '-' ∨ c.isDigit = true) (rest : Text) :
    skipScalar (c :: rest) = skipNumber (c :: rest) := by
  have hstart : (c = '-' || c.isDigit) = true := by simpa using h
  unfold skipScalar
  split
  next heq => cases heq
  next heq =>
    cases heq
    exact absurd h (by decide)
  next heq =>
    cases heq
    exact absurd h (by decide)
  next heq =>
    cases heq
    exact absurd h (by decide)
  next heq =>
    cases heq
    exact absurd h (by decide)
  next heq =>
    cases heq
    rw [if_pos hstart]

/-- A value without brackets is skipped in one step. -/
theorem skipStep_scalar {blanks value rest : Text} {c : Char} (hblanks : Space blanks)
    (hvalue : ∃ more, value = c :: more) (hspace : isSpace c = false)
    (hbracket : ∀ bracket : Bracket, c ≠ bracket.opening)
    (hskip : skipScalar (value ++ rest) = .ok rest) (stack : List Bracket) :
    skipStep stack .value (blanks ++ (value ++ rest)) = .ok ((stack, .more), rest) := by
  obtain ⟨more, rfl⟩ := hvalue
  rw [List.cons_append] at hskip ⊢
  have hlist := hbracket .list
  have hobject := hbracket .object
  simp only [skipStep, skipSpace_append_cons hblanks hspace, hlist, hobject, if_false, hskip]
  rfl

/-- What is due in front of a member. -/
def dueFirst (first : Bool) : Due :=
  if first then .first else .more

/-- In front of an element the machine goes on to its value. -/
theorem skipStep_element {first : Bool} {lead value : Text} (hlead : Lead first lead)
    (h : Grammar .value value) (rest : Text) (stack : List Bracket) :
    ∃ blanks, Space blanks ∧
      skipStep (.list :: stack) (dueFirst first) (lead ++ (value ++ rest)) =
        .ok ((.list :: stack, .value), blanks ++ (value ++ rest)) := by
  cases hlead with
  | first hblanks =>
    -- The blanks are gone, as a closing bracket has been looked for.
    obtain ⟨c, more, rfl, hstart⟩ := h.start
    obtain ⟨hspace, hclosing⟩ := hstart.ne
    refine ⟨[], List.forall_mem_nil _, ?_⟩
    simp only [dueFirst, if_true, skipStep, List.cons_append, skipSpace_append_cons hblanks hspace,
      hclosing .list, if_false, skipToValue]
    rfl
  | later hbefore hafter =>
    refine ⟨_, hafter, ?_⟩
    have hcomma : isSpace ',' = false := by decide
    rw [List.append_assoc, List.cons_append]
    simp only [dueFirst, skipStep, skipSpace_append_cons hbefore hcomma, skipToValue]
    rfl

theorem skipKey_append {blanks content before : Text} (hblanks : Space blanks)
    (hcontent : Content content) (hbefore : Space before) (rest : Text) :
    skipKey (blanks ++ '"' :: (content ++ '"' :: (before ++ ':' :: rest))) = .ok rest := by
  have hquote : isSpace '"' = false := by decide
  simp only [skipKey, skipSpace_append_cons hblanks hquote, if_true,
    skipString_content hcontent, bind, Except.bind, colon_append hbefore]

/-- In front of an entry the machine goes on to the value behind the colon. -/
theorem skipStep_entry {first : Bool} {lead content before : Text} (hlead : Lead first lead)
    (hcontent : Content content) (hbefore : Space before) (rest : Text) (stack : List Bracket) :
    skipStep (.object :: stack) (dueFirst first)
        (lead ++ '"' :: (content ++ '"' :: (before ++ ':' :: rest))) =
      .ok ((.object :: stack, .value), rest) := by
  have hkey {blanks : Text} (hblanks : Space blanks) := skipKey_append hblanks hcontent hbefore rest
  cases hlead with
  | first hblanks =>
    have hquote : isSpace '"' = false := by decide
    have hhere := hkey (List.forall_mem_nil _)
    rw [List.nil_append] at hhere
    simp only [dueFirst, if_true, skipStep, skipSpace_append_cons hblanks hquote, skipToValue,
      hhere]
    rfl
  | later hblanks hafter =>
    have hcomma : isSpace ',' = false := by decide
    rw [List.append_assoc, List.cons_append]
    simp only [dueFirst, skipStep, skipSpace_append_cons hblanks hcomma, skipToValue, hkey hafter]
    rfl

/-- In front of the closing bracket the machine leaves the brackets. -/
theorem skipStep_closing {blanks : Text} (h : Space blanks) (bracket : Bracket) (first : Bool)
    (rest : Text) (stack : List Bracket) :
    skipStep (bracket :: stack) (dueFirst first) (blanks ++ bracket.closing :: rest) =
      .ok ((stack, .more), rest) := by
  have hclosing := skipSpace_append_cons h (isSpace_bracket bracket).2 rest
  cases first with
  | true => simp only [dueFirst, if_true, skipStep, hclosing]
  | false =>
    have hcomma : bracket.closing ≠ ',' := by cases bracket <;> decide
    simp only [dueFirst, Bool.false_eq_true, if_false, skipStep, hclosing, hcomma, if_true]

/-! ## The machine -/

/-- The machine behind a value: it stops if no bracket is open. -/
def resume (fuel : Nat) (stack : List Bracket) (rest : Text) : Except Stop Text :=
  match stack with
  | [] => .ok rest
  | bracket :: outer => skipSteps fuel (bracket :: outer) .more rest

theorem skipSteps_of_more {stack stack' : List Bracket} {due : Due} {text rest : Text}
    (h : skipStep stack due text = .ok ((stack', .more), rest)) (fuel : Nat) :
    skipSteps (fuel + 1) stack due text = resume fuel stack' rest := by
  rw [skipSteps, h]
  cases stack' with
  | nil => rfl
  | cons bracket outer => rfl

theorem skipSteps_of_ne_more {stack stack' : List Bracket} {due due' : Due} {text rest : Text}
    (h : skipStep stack due text = .ok ((stack', due'), rest)) (hdue : due' ≠ .more) (fuel : Nat) :
    skipSteps (fuel + 1) stack due text = skipSteps fuel stack' due' rest := by
  rw [skipSteps, h]
  cases due' with
  | more => exact absurd rfl hdue
  | value => cases stack' <;> rfl
  | first => cases stack' <;> rfl

/-- The machine is taken over the phrase, with fewer steps than twice its
    characters, and goes on behind it with the brackets that were open before. -/
def Skipped : Phrase → Text → Prop
  | .value, value => ∀ (blanks rest : Text) (stack : List Bracket), Space blanks → Ends rest →
      ∃ steps, steps < 2 * value.length ∧ ∀ fuel,
        skipSteps (fuel + steps) stack .value (blanks ++ (value ++ rest)) = resume fuel stack rest
  | .members bracket first, inner => ∀ (rest : Text) (stack : List Bracket),
      ∃ steps, steps ≤ 2 * inner.length + 1 ∧ ∀ fuel,
        skipSteps (fuel + steps) (bracket :: stack) (dueFirst first)
          (inner ++ bracket.closing :: rest) = resume fuel stack rest

theorem skipped_scalar {value : Text} (hstart : ∃ c more, value = c :: more ∧
      isSpace c = false ∧ ∀ bracket : Bracket, c ≠ bracket.opening)
    (hskip : ∀ rest, Ends rest → skipScalar (value ++ rest) = .ok rest) :
    Skipped .value value := by
  intro blanks rest stack hblanks hrest
  obtain ⟨c, more, rfl, hspace, hbracket⟩ := hstart
  refine ⟨1, by rw [List.length_cons]; omega, ?_⟩
  intro fuel
  exact skipSteps_of_more
    (skipStep_scalar hblanks ⟨more, rfl⟩ hspace hbracket (hskip rest hrest) stack) fuel

theorem Grammar.ends {bracket : Bracket} {later : Text}
    (h : Grammar (.members bracket false) later) (rest : Text) :
    Ends (later ++ bracket.closing :: rest) := by
  cases h with
  | nil hblanks => exact ends_closing hblanks bracket rest
  | element hlead _ _ =>
    rw [List.append_assoc, List.append_assoc]
    exact ends_lead hlead _
  | entry hlead _ _ _ _ _ =>
    rw [List.append_assoc, List.append_assoc]
    exact ends_lead hlead _

/-- A member is one step to its value, the value, and the members behind it. -/
theorem Skipped.cons {bracket : Bracket} {first : Bool} {member written later : Text}
    (hstep : ∀ rest stack, ∃ blanks, Space blanks ∧
      skipStep (bracket :: stack) (dueFirst first) (member ++ rest) =
        .ok ((bracket :: stack, .value), blanks ++ (written ++ rest)))
    (hlength : written.length ≤ member.length) (hvalue : Skipped .value written)
    (hends : ∀ rest, Ends (later ++ bracket.closing :: rest))
    (hlater : Skipped (.members bracket false) later) :
    Skipped (.members bracket first) (member ++ later) := by
  intro rest stack
  obtain ⟨blanks, hblanks, hopen⟩ := hstep (later ++ bracket.closing :: rest) stack
  obtain ⟨valueSteps, hvalueSteps, hvalueRun⟩ :=
    hvalue blanks _ (bracket :: stack) hblanks (hends rest)
  obtain ⟨laterSteps, hlaterSteps, hlaterRun⟩ := hlater rest stack
  refine ⟨laterSteps + valueSteps + 1, ?_, ?_⟩
  · rw [List.length_append]
    omega
  · intro fuel
    have hfuel : fuel + (laterSteps + valueSteps + 1) = fuel + laterSteps + valueSteps + 1 := by
      omega
    rw [List.append_assoc, hfuel, skipSteps_of_ne_more hopen (by decide), hvalueRun]
    exact hlaterRun fuel

/-- **The machine skips every phrase.** -/
theorem skipSteps_phrase {phrase : Phrase} {text : Text} (h : Grammar phrase text) :
    Skipped phrase text := by
  induction h with
  | @word letters hletters =>
    simp only [List.mem_cons, List.not_mem_nil, or_false] at hletters
    rcases hletters with rfl | rfl | rfl
    · refine skipped_scalar ⟨'n', _, rfl, by decide, by rintro ⟨⟩ <;> decide⟩ ?_
      intro rest _
      exact readWord_append "ull".toList rest
    · refine skipped_scalar ⟨'t', _, rfl, by decide, by rintro ⟨⟩ <;> decide⟩ ?_
      intro rest _
      exact readWord_append "rue".toList rest
    · refine skipped_scalar ⟨'f', _, rfl, by decide, by rintro ⟨⟩ <;> decide⟩ ?_
      intro rest _
      exact readWord_append "alse".toList rest
  | @number number hnumber =>
    obtain ⟨c, more, rfl, hc⟩ := hnumber.start
    obtain ⟨hspace, -⟩ := (Start.number hc).ne
    have hbracket : ∀ bracket : Bracket, c ≠ bracket.opening := by
      intro bracket
      rcases hc with rfl | hc
      · cases bracket <;> decide
      · cases bracket <;> exact ne_of_isDigit hc (by decide)
    refine skipped_scalar ⟨c, more, rfl, hspace, hbracket⟩ ?_
    intro rest hrest
    rw [List.cons_append, skipScalar_number hc, ← List.cons_append]
    exact skipNumber_number hnumber hrest
  | @string content hcontent =>
    refine skipped_scalar ⟨'"', content ++ ['"'], rfl, by decide, by rintro ⟨⟩ <;> decide⟩ ?_
    intro rest _
    show skipString (content ++ ['"'] ++ rest) = .ok rest
    rw [List.append_assoc]
    exact skipString_content hcontent rest
  | @enclosed bracket inner hinner ih =>
    -- The bracket is opened in a step of its own, and the last step of the members
    -- closes it.
    intro blanks rest stack hblanks _
    obtain ⟨steps, hsteps, hrun⟩ := ih rest stack
    have hopen : skipStep stack .value
        (blanks ++ (bracket.opening :: inner ++ [bracket.closing] ++ rest)) =
          .ok ((bracket :: stack, .first), inner ++ bracket.closing :: rest) := by
      have hskip := skipSpace_append_cons hblanks (isSpace_bracket bracket).1
        (inner ++ bracket.closing :: rest)
      rw [List.append_assoc, List.cons_append, List.singleton_append]
      cases bracket with
      | list => simp only [skipStep, hskip, if_true]
      | object =>
        have hother : Bracket.object.opening ≠ Bracket.list.opening := by decide
        simp only [skipStep, hskip, hother, if_true, if_false]
    refine ⟨steps + 1, ?_, ?_⟩
    · rw [List.length_append, List.length_cons, List.length_singleton]
      omega
    · intro fuel
      exact (skipSteps_of_ne_more hopen (by decide) (fuel + steps)).trans (hrun fuel)
  | @nil bracket first blanks hblanks =>
    intro rest stack
    exact ⟨1, by omega, skipSteps_of_more (skipStep_closing hblanks bracket first rest stack)⟩
  | @element first lead written later hlead h hrest ihvalue ihrest =>
    refine Skipped.cons ?_ ?_ ihvalue hrest.ends ihrest
    · intro rest stack
      rw [List.append_assoc]
      exact skipStep_element hlead h rest stack
    · rw [List.length_append]
      omega
  | @entry first lead content before after written later hlead hcontent hbefore hafter h hrest
      ihvalue ihrest =>
    refine Skipped.cons ?_ ?_ ihvalue hrest.ends ihrest
    · intro rest stack
      refine ⟨after, hafter, ?_⟩
      rw [← skipStep_entry hlead hcontent hbefore (after ++ (written ++ rest)) stack]
      simp only [List.append_assoc, List.cons_append]
    · simp only [List.length_append, List.length_cons]
      omega

/-- **Every value is skipped**, up to where it ends. -/
theorem skipValue_value {blanks value rest : Text} (hblanks : Space blanks)
    (h : Grammar .value value) (hrest : Ends rest) :
    skipValue (blanks ++ (value ++ rest)) = .ok rest := by
  obtain ⟨steps, hsteps, hrun⟩ := skipSteps_phrase h blanks rest [] hblanks hrest
  -- The whole text is the bound of the machine, and the value is part of it.
  have hfuel : ∃ fuel, 2 * (blanks ++ (value ++ rest)).length + 1 = fuel + steps := by
    refine ⟨2 * (blanks ++ (value ++ rest)).length + 1 - steps, ?_⟩
    simp only [List.length_append]
    omega
  obtain ⟨fuel, hfuel⟩ := hfuel
  rw [skipValue, hfuel]
  exact hrun fuel

end Casebook.Json
