import Casebook.Proofs.Step.Marker

/-! # Outlines

    What the three operations of an outline can do.  A script changes its
    outline by nothing else, so what they keep holds of every outline that a
    script ends with (`Outline.Invariant`).

    * Questions stay unmarked (`Outline.unmarked_invariant`).
    * When no step waits for its question, an instruction and a question put a
      new step behind the others and reach no other step
      (`Outline.ask_instruct`).
-/

namespace Casebook

/-- Outlines with the property keep it whatever is declared next. -/
structure Outline.Invariant (P : Outline → Prop) : Prop where
  add : ∀ outline text, P outline → P (outline.add text)
  instruct : ∀ outline text, P outline → P (outline.instruct text)
  ask : ∀ outline text next, P outline → outline.ask text = .ok next → P next

namespace Outline

theorem mem_push {outline : Outline} {step other : Step} :
    other ∈ (outline.push step).steps ↔ other ∈ outline.steps ∨ other = step := by
  simp [push]

theorem mem_of_mem_replaceLast {outline : Outline} {step other : Step}
    (h : other ∈ (outline.replaceLast step).steps) : other ∈ outline.steps ∨ other = step := by
  unfold replaceLast at h
  rw [List.mem_append, List.mem_singleton] at h
  rcases h with h | h
  · exact Or.inl ((List.dropLast_subset outline.steps) h)
  · exact Or.inr h

theorem mem_of_last? {outline : Outline} {last : Step} (h : outline.last? = some last) :
    last ∈ outline.steps :=
  List.mem_of_getLast? h

/-- An instruction extends the last step, or puts a step behind it. -/
theorem mem_of_mem_instruct {outline : Outline} {text : Text} {other : Step}
    (h : other ∈ (outline.instruct text).steps) :
    other ∈ outline.steps ∨ (∃ last ∈ outline.steps, other = last.extend text) ∨
      other = Step.extend {} text := by
  unfold instruct at h
  split at h
  · exact (mem_push.1 h).imp_right Or.inr
  next last hlast =>
    split at h
    · -- The last step waits for its question and is replaced.
      rcases mem_of_mem_replaceLast h with h | h
      · exact Or.inl h
      · exact Or.inr (Or.inl ⟨last, mem_of_last? hlast, h⟩)
    · exact (mem_push.1 h).imp_right Or.inr

/-- A question that is attached goes to the last step, which has an instruction
    and no question yet. -/
theorem ask_eq_ok_iff {outline next : Outline} {text : Text} :
    outline.ask text = .ok next ↔
      ∃ last, outline.last? = some last ∧ last.instruction ≠ [] ∧ last.question = [] ∧
        next = outline.replaceLast { last with question := Marker.strip text } := by
  unfold ask
  cases hlast : outline.last? with
  | none => simp
  | some last =>
    simp only [Option.some.injEq, exists_eq_left', Step.isOpen, List.isEmpty_iff]
    by_cases hinstruction : last.instruction = []
    · simp [hinstruction]
    · by_cases hquestion : last.question = []
      · rw [if_neg hinstruction, if_pos hquestion, Except.ok.injEq]
        constructor
        · intro heq
          subst heq
          exact ⟨hinstruction, hquestion, rfl⟩
        · intro hright
          obtain ⟨-, -, rfl⟩ := hright
          rfl
      · simp [hinstruction, hquestion]

/-! ## Unmarked questions -/

/-- No question begins with a marker. -/
def Unmarked (outline : Outline) : Prop :=
  ∀ step ∈ outline.steps, Marker.starts step.question = false

theorem unmarked_empty : Unmarked {} := by
  intro step hmem
  cases hmem

/-- **Questions stay unmarked**, whatever is declared. -/
theorem unmarked_invariant : Invariant Unmarked where
  add outline text h := by
    intro step hmem
    rcases mem_push.1 hmem with hmem | rfl
    · exact h step hmem
    · exact Step.starts_ofText text
  instruct outline text h := by
    intro step hmem
    rcases mem_of_mem_instruct hmem with hmem | ⟨last, hlast, rfl⟩ | rfl
    · exact h step hmem
    · exact h last hlast
    · -- The question of a new step is empty.
      show Marker.starts [] = false
      decide
  ask outline text next h hask := by
    obtain ⟨last, -, -, -, rfl⟩ := ask_eq_ok_iff.1 hask
    intro step hmem
    rcases mem_of_mem_replaceLast hmem with hmem | rfl
    · exact h step hmem
    · exact Marker.starts_strip text

/-! ## The last step -/

theorem last?_push (outline : Outline) (step : Step) : (outline.push step).last? = some step := by
  simp [push, last?]

theorem replaceLast_push (outline : Outline) (step other : Step) :
    (outline.push step).replaceLast other = outline.push other := by
  simp [push, replaceLast]

/-- An outline has no steps, or a last one behind the others. -/
theorem eq_empty_or_push (outline : Outline) :
    outline = {} ∨ ∃ front last, outline = push front last := by
  obtain ⟨steps⟩ := outline
  rcases List.eq_nil_or_concat steps with rfl | ⟨front, last, rfl⟩
  · exact Or.inl rfl
  · exact Or.inr ⟨⟨front⟩, last, by rw [push, List.concat_eq_append]⟩

theorem instruct_push (outline : Outline) (step : Step) (text : Text) :
    (outline.push step).instruct text =
      if step.isOpen then outline.push (step.extend text)
      else (outline.push step).push (Step.extend {} text) := by
  unfold instruct
  rw [last?_push]
  simp only [replaceLast_push]

theorem ask_push (outline : Outline) (step : Step) (text : Text) :
    (outline.push step).ask text =
      if step.instruction.isEmpty then .error .missingInstruction
      else if step.isOpen then .ok (outline.push { step with question := Marker.strip text })
      else .error .questionAlreadySet := by
  unfold ask
  rw [last?_push]
  simp only [replaceLast_push]

/-! ## Declaring a step in two parts -/

/-- The last step does not wait for its question, or there is no step. -/
def Settled (outline : Outline) : Prop :=
  ∀ last, outline.last? = some last → last.question ≠ []

theorem settled_empty : Settled {} := by
  intro last hlast
  cases hlast

theorem settled_push {step : Step} (h : step.question ≠ []) (outline : Outline) :
    (outline.push step).Settled := by
  intro last hlast
  rw [last?_push, Option.some.injEq] at hlast
  rwa [← hlast]

/-- An instruction opens a step of its own when no step waits. -/
theorem instruct_of_settled {outline : Outline} (h : outline.Settled) (text : Text) :
    outline.instruct text = outline.push (Step.extend {} text) := by
  unfold instruct
  split
  · rfl
  next last hlast =>
    have hopen : ¬ last.isOpen = true := by
      intro hopen
      exact h last hlast (List.isEmpty_iff.1 hopen)
    rw [if_neg hopen]

/-- **A step in two parts.**  The instruction is kept behind the space that it
    is put after, so it counts as given even when it is empty. -/
theorem ask_instruct {outline : Outline} (h : outline.Settled) (instruction question : Text) :
    (outline.instruct instruction).ask question =
      .ok (outline.push
        { instruction := ' ' :: instruction, question := Marker.strip question }) := by
  -- The new step is the last one, and the space makes its instruction not empty.
  rw [instruct_of_settled h, ask_push]
  rfl

end Outline

end Casebook
