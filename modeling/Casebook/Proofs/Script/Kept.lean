import Casebook.Proofs.Script

/-! # Finished steps

    A step is finished when another one stands behind it, or when its question is
    there.  Finished steps are never touched again: whatever is declared next,
    they keep their places and their texts (`Outline.Keeps`).

    A declaration can do two things.  It puts a step behind the others
    (`Outline.keeps_push`), or it changes the last step while that waits for its
    question (`Outline.keeps_push_of_open`).  Which of the two an instruction does
    depends on the last step (`Outline.Instructed`), and a question that cannot
    be attached does neither (`Script.Asked`).
-/

namespace Casebook

namespace Outline

/-! ## What later outlines keep -/

/-- No step is lost, and each step that another one stood behind or that had its
    question is in its place, as it was. -/
structure Keeps (before after : Outline) : Prop where
  length : before.steps.length ≤ after.steps.length
  finished : ∀ i step, before.steps[i]? = some step →
    i + 1 < before.steps.length ∨ step.question ≠ [] → after.steps[i]? = some step

theorem Keeps.refl (outline : Outline) : outline.Keeps outline where
  length := Nat.le_refl _
  finished _ _ hstep _ := hstep

theorem Keeps.trans {first second third : Outline} (h : first.Keeps second)
    (h' : second.Keeps third) : first.Keeps third where
  length := Nat.le_trans h.length h'.length
  finished i step hstep hfinished := by
    apply h'.finished i step (h.finished i step hstep hfinished)
    -- What is finished stays finished.
    have hlength := h.length
    rcases hfinished with hbehind | hquestion
    · exact Or.inl (by omega)
    · exact Or.inr hquestion

theorem keeps_push (outline : Outline) (step : Step) : outline.Keeps (outline.push step) where
  length := by simp [push]
  finished i other hother _ := by
    have hi : i < outline.steps.length := (List.getElem?_eq_some_iff.1 hother).1
    rw [push, List.getElem?_append_left hi, hother]

/-- Another step in the place of one that waits for its question touches no
    finished one. -/
theorem keeps_push_of_open {front : Outline} {last : Step} (hopen : last.question = [])
    (step : Step) : (front.push last).Keeps (front.push step) where
  length := by simp [push]
  finished i other hother hfinished := by
    simp only [push, List.length_append, List.length_singleton] at hother hfinished ⊢
    by_cases hi : i < front.steps.length
    · rw [List.getElem?_append_left hi] at hother ⊢
      exact hother
    · -- At the place of the last step nothing is finished.
      have hlength := (List.getElem?_eq_some_iff.1 hother).1
      rw [List.length_append, List.length_singleton] at hlength
      obtain rfl : i = front.steps.length := by omega
      rw [List.getElem?_concat_length, Option.some.injEq] at hother
      rcases hfinished with hbehind | hquestion
      · omega
      · exact absurd (hother ▸ hopen) hquestion

/-! ## Instructions -/

theorem not_settled_push {last : Step} (hopen : last.question = []) (front : Outline) :
    ¬ (front.push last).Settled := by
  intro hsettled
  exact hsettled last (last?_push front last) hopen

/-- An instruction opens a step when none waits, and extends the last one when
    that does. -/
theorem instruct_cases (outline : Outline) (text : Text) :
    outline.Settled ∧ outline.instruct text = outline.push (Step.extend {} text) ∨
      ∃ front last, outline = push front last ∧ last.question = [] ∧
        outline.instruct text = front.push (last.extend text) := by
  by_cases hsettled : outline.Settled
  · exact Or.inl ⟨hsettled, instruct_of_settled hsettled text⟩
  · rcases eq_empty_or_push outline with rfl | ⟨front, last, rfl⟩
    · exact absurd settled_empty hsettled
    · have hopen : last.question = [] := by
        by_contra hquestion
        exact hsettled (settled_push hquestion front)
      have hisOpen : last.isOpen = true := List.isEmpty_iff.2 hopen
      refine Or.inr ⟨front, last, rfl, hopen, ?_⟩
      rw [instruct_push, if_pos hisOpen]

/-- What an instruction does: it opens a step exactly when none waits for its
    question, and otherwise the step that waits gets it behind its own. -/
structure Instructed (before : Outline) (text : Text) (after : Outline) : Prop where
  grows : after.steps.length = before.steps.length + 1 ↔ before.Settled
  opened : before.Settled → after = before.push { instruction := ' ' :: text }
  extended : ¬ before.Settled → ∃ front last, before = push front last ∧ last.question = [] ∧
    after = front.push { last with instruction := last.instruction ++ ' ' :: text }

theorem instructed_instruct (outline : Outline) (text : Text) :
    outline.Instructed text (outline.instruct text) := by
  rcases instruct_cases outline text with
    ⟨hsettled, hinstruct⟩ | ⟨front, last, rfl, hopen, hinstruct⟩
  · refine ⟨?_, fun _ => hinstruct, fun h => absurd hsettled h⟩
    simp [hinstruct, push, hsettled]
  · have hwaits := not_settled_push hopen front
    refine ⟨?_, fun h => absurd h hwaits, fun _ => ⟨front, last, rfl, hopen, hinstruct⟩⟩
    rw [hinstruct, iff_false_right hwaits]
    simp [push]

/-! ## One declaration more -/

theorem keeps_instruct (outline : Outline) (text : Text) :
    outline.Keeps (outline.instruct text) := by
  rcases instruct_cases outline text with ⟨-, hinstruct⟩ | ⟨front, last, rfl, hopen, hinstruct⟩
  · rw [hinstruct]
    exact keeps_push outline _
  · rw [hinstruct]
    exact keeps_push_of_open hopen _

/-- A question that is attached goes to a last step that has an instruction and
    waits for it. -/
theorem exists_push_of_ask {outline next : Outline} {text : Text}
    (h : outline.ask text = .ok next) : ∃ front last, outline = push front last ∧
      last.instruction ≠ [] ∧ last.question = [] ∧
      next = front.push { last with question := Marker.strip text } := by
  obtain ⟨last, hlast, hinstruction, hopen, rfl⟩ := ask_eq_ok_iff.1 h
  rcases eq_empty_or_push outline with rfl | ⟨front, step, rfl⟩
  · cases hlast
  · rw [last?_push, Option.some.injEq] at hlast
    subst hlast
    exact ⟨front, step, rfl, hinstruction, hopen, replaceLast_push front step _⟩

theorem keeps_ask {outline next : Outline} {text : Text} (h : outline.ask text = .ok next) :
    outline.Keeps next := by
  obtain ⟨front, last, rfl, -, hopen, rfl⟩ := exists_push_of_ask h
  exact keeps_push_of_open hopen _

/-- **What an outline has finished is kept**, whatever is declared next. -/
theorem keeps_invariant (before : Outline) : Invariant before.Keeps where
  add outline _ h := h.trans (keeps_push outline _)
  instruct outline text h := h.trans (keeps_instruct outline text)
  ask _ _ _ h hask := h.trans (keeps_ask hask)

end Outline

namespace Script

variable {ρ α : Type} {heading : Heading}

/-- What a question does that is tried: it goes to the last step, which waits for
    it, or it fails and leaves the outline as it was. -/
structure Asked (before : Outline) (text : Text) (run : Run ρ (Except IncompleteStep Unit)) :
    Prop where
  ends : ∃ value, run.outcome = .ok value
  length : run.outline.steps.length = before.steps.length
  attached : run.outcome = .ok (.ok ()) → ∃ front last, before = Outline.push front last ∧
    last.question = [] ∧ run.outline = front.push { last with question := Marker.strip text }
  failed : ∀ cause, run.outcome = .ok (.error cause) → run.outline = before

theorem asked_tryQuestion (before : Outline) (text : Text) :
    Asked before text ((tryQuestion text : Script ρ _).run heading before) := by
  unfold tryQuestion run
  split
  next later hask =>
    obtain ⟨front, last, rfl, -, hopen, rfl⟩ := Outline.exists_push_of_ask hask
    refine ⟨⟨_, rfl⟩, ?_, fun _ => ⟨front, last, rfl, hopen, rfl⟩, ?_⟩
    · simp [run, Outline.push]
    · intro cause hcause
      cases hcause
  next cause _ =>
    refine ⟨⟨_, rfl⟩, rfl, ?_, fun _ _ => rfl⟩
    intro hok
    cases hok

/-- **Finished steps are kept.**  Take an outline, such as a script has made up to
    some moment, and let any script go on from it.  Every step that another one
    stood behind, or that had its question, is still in its place as it was, and
    there are no fewer steps.  A combined step is one step more, an instruction
    is one exactly when no step waits for its question and extends the waiting
    one otherwise, and a question that fails changes nothing. -/
theorem finished_steps_kept (before : Outline) (script : Script ρ α) :
    before.Keeps (script.run heading before).outline ∧
      ∀ text,
        ((step text : Script ρ Unit).run heading before).outline =
            before.push (Step.ofText text) ∧
          before.Instructed text ((instruction text : Script ρ Unit).run heading before).outline ∧
          Asked before text ((tryQuestion text : Script ρ _).run heading before) := by
  refine ⟨run_invariant before.keeps_invariant script (Outline.Keeps.refl before), ?_⟩
  intro text
  exact ⟨rfl, before.instructed_instruct text, asked_tryQuestion before text⟩

end Script

end Casebook
