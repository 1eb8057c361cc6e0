import Casebook.Script
import Casebook.Proofs.Step.Outline

/-! # Runs of scripts

    A script is free to branch on what it sees, but the outline it ends with
    comes from the three operations of outlines alone.  So what these operations
    keep holds at the end of every run (`run_invariant`).

    `Script.ofSteps` is the script that declares given steps, each in two parts.
    It never fails on unmarked questions (`run_ofSteps`).
-/

namespace Casebook

/-- The step as an outline has it when its two parts are declared. -/
def Step.declared (step : Step) : Step :=
  { step with instruction := ' ' :: step.instruction }

namespace Script

variable {ρ α : Type} {heading : Heading}

/-- **Every run keeps what the operations of outlines keep.** -/
theorem run_invariant {P : Outline → Prop} (hP : Outline.Invariant P) (script : Script ρ α)
    {outline : Outline} (h : P outline) : P (script.run heading outline).outline := by
  induction script generalizing outline with
  | done value => exact h
  | fail fault => exact h
  | add text next ih => exact ih (hP.add outline text h)
  | instruct text next ih => exact ih (hP.instruct outline text h)
  | ask text next ih =>
    -- The script goes on in either case, with the outline changed or as it was.
    unfold run
    split
    next later hask => exact ih (.ok ()) (hP.ask outline text later h hask)
    next cause hask => exact ih (.error cause) h
  | look next ih => exact ih heading h
  | review next ih => exact ih outline.steps h
  | note remark next ih => exact ih h

/-- No script makes a question that begins with a marker. -/
theorem unmarked_run (script : Script ρ α) : (script.run heading {}).outline.Unmarked :=
  run_invariant Outline.unmarked_invariant script Outline.unmarked_empty

/-! ## Scripts for given steps -/

/-- Declares the steps, each in two parts. -/
def ofSteps : List Step → Script ρ Unit
  | [] => pure ()
  | step :: rest => do
    instruction step.instruction
    question step.question
    ofSteps rest

/-- **Steps with unmarked questions are declared as they are**, but for the
    space in front of their instructions. -/
theorem run_ofSteps {steps : List Step}
    (h : ∀ step ∈ steps, Marker.starts step.question = false ∧ step.question ≠ [])
    {outline : Outline} (hsettled : outline.Settled) :
    (ofSteps steps : Script ρ Unit).run heading outline =
      { outcome := .ok (), outline := ⟨outline.steps ++ steps.map Step.declared⟩ } := by
  -- By induction on the steps: each one leaves no step waiting for its question.
  induction steps generalizing outline with
  | nil =>
    rw [List.map_nil, List.append_nil]
    rfl
  | cons step rest ih =>
    obtain ⟨hmark, hne⟩ := h step (by simp)
    have hask := Outline.ask_instruct hsettled step.instruction step.question
    rw [Marker.strip_of_not_starts hmark] at hask
    have hrun : (ofSteps (step :: rest) : Script ρ Unit).run heading outline =
        (ofSteps rest).run heading (outline.push step.declared) := by
      show run heading (.instruct step.instruction (.ask step.question _)) outline = _
      rw [run, run, hask]
      rfl
    have hrest : ∀ later ∈ rest, Marker.starts later.question = false ∧ later.question ≠ [] := by
      intro later hmem
      exact h later (List.mem_cons_of_mem step hmem)
    have hdeclared : step.declared.question ≠ [] := hne
    have hnext : (outline.push step.declared).Settled := Outline.settled_push hdeclared outline
    rw [hrun, ih hrest hnext, List.map_cons, Outline.push, List.append_assoc, List.singleton_append]

end Script

end Casebook
