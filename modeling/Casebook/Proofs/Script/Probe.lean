import Casebook.Script

/-! # Probes

    A probe is a script that only asks something.  Put before everything that
    another script does, with its answers kept as remarks, it shows what that
    script could see at each moment (`Script.probed`).

    A probe that is answered in one way, whatever steps there are, is answered so
    at every moment, and it changes nothing in the run
    (`Script.answers_run_probed`).
-/

namespace Casebook.Script

variable {ρ α β : Type}

/-! ## Putting probes in -/

/-- Asks, leaves the answer as a remark, and goes on with the next script. -/
def noted (probe : Script (ρ ⊕ β) β) (next : Script (ρ ⊕ β) α) : Script (ρ ⊕ β) α :=
  probe.bind fun answer => .note (.inr answer) next

/-- The script with a probe before everything it does. -/
def probed (script : Script ρ α) (probe : Script (ρ ⊕ β) β) : Script (ρ ⊕ β) α :=
  match script with
  | .done value => noted probe (.done value)
  | .fail fault => noted probe (.fail fault)
  | .add text next => noted probe (.add text (next.probed probe))
  | .instruct text next => noted probe (.instruct text (next.probed probe))
  | .ask text next => noted probe (.ask text fun outcome => (next outcome).probed probe)
  | .look next => noted probe (.look fun heading => (next heading).probed probe)
  | .review next => noted probe (.review fun steps => (next steps).probed probe)
  | .note remark next => noted probe (.note (.inl remark) (next.probed probe))

variable {heading : Heading}

/-! ## Runs with probes -/

/-- A script after another runs from where that one ends, if it ends with a value. -/
theorem run_bind (script : Script ρ α) (next : α → Script ρ β) (outline : Outline) :
    (script.bind next).run heading outline =
      match (script.run heading outline).outcome with
      | .ok value =>
        { (next value).run heading (script.run heading outline).outline with
          remarks := (script.run heading outline).remarks ++
            ((next value).run heading (script.run heading outline).outline).remarks }
      | .error fault =>
        { outcome := .error fault
          outline := (script.run heading outline).outline
          remarks := (script.run heading outline).remarks } := by
  induction script generalizing outline with
  | done value => rfl
  | fail fault => rfl
  | add text rest ih => exact ih (outline.add text)
  | instruct text rest ih => exact ih (outline.instruct text)
  | ask text rest ih =>
    rw [bind, run, run]
    split
    next later hask => exact ih (.ok ()) later
    next cause hask => exact ih (.error cause) outline
  | look rest ih => exact ih heading outline
  | review rest ih => exact ih outline.steps outline
  | note remark rest ih =>
    rw [bind, run, ih outline, run]
    dsimp only
    split <;> rfl

/-- The script ends with the answer wherever it starts, and does nothing else. -/
def Quiet (probe : Script ρ β) (heading : Heading) (answer : β) : Prop :=
  ∀ outline, probe.run heading outline = { outcome := .ok answer, outline }

theorem run_noted {probe : Script (ρ ⊕ β) β} {answer : β} (h : probe.Quiet heading answer)
    (next : Script (ρ ⊕ β) α) (outline : Outline) :
    (noted probe next).run heading outline =
      { next.run heading outline with
        remarks := .inr answer :: (next.run heading outline).remarks } := by
  rw [noted, run_bind, h outline]
  rfl

/-- The run is the plain one with answers among its remarks, all of them the
    same. -/
structure Run.Answers (probed : Run (ρ ⊕ β) α) (plain : Run ρ α) (answer : β) : Prop where
  outcome : probed.outcome = plain.outcome
  outline : probed.outline = plain.outline
  remarks : probed.remarks.filterMap Sum.getLeft? = plain.remarks
  answers : ∀ seen ∈ probed.remarks.filterMap Sum.getRight?, seen = answer

theorem Run.Answers.cons {probed : Run (ρ ⊕ β) α} {plain : Run ρ α} {answer : β}
    (h : probed.Answers plain answer) :
    Answers { probed with remarks := .inr answer :: probed.remarks } plain answer where
  outcome := h.outcome
  outline := h.outline
  remarks := h.remarks
  answers seen hmem := by
    rcases List.mem_cons.1 hmem with rfl | hmem
    · rfl
    · exact h.answers seen hmem

/-- **A probe is answered in the same way at every moment** of a run, and the run
    is otherwise that of the script alone. -/
theorem answers_run_probed {probe : Script (ρ ⊕ β) β} {answer : β} (h : probe.Quiet heading answer)
    (script : Script ρ α) (outline : Outline) :
    ((script.probed probe).run heading outline).Answers (script.run heading outline) answer := by
  induction script generalizing outline with
  | done value =>
    rw [probed, run_noted h]
    exact Run.Answers.cons ⟨rfl, rfl, rfl, by simp [run]⟩
  | fail fault =>
    rw [probed, run_noted h]
    exact Run.Answers.cons ⟨rfl, rfl, rfl, by simp [run]⟩
  | add text next ih =>
    rw [probed, run_noted h]
    exact (ih (outline.add text)).cons
  | instruct text next ih =>
    rw [probed, run_noted h]
    exact (ih (outline.instruct text)).cons
  | ask text next ih =>
    rw [probed, run_noted h]
    apply Run.Answers.cons
    rw [run, run]
    split
    next later hask => exact ih (.ok ()) later
    next cause hask => exact ih (.error cause) outline
  | look next ih =>
    rw [probed, run_noted h]
    exact (ih heading outline).cons
  | review next ih =>
    rw [probed, run_noted h]
    exact (ih outline.steps outline).cons
  | note remark next ih =>
    rw [probed, run_noted h]
    have hnext := ih outline
    exact Run.Answers.cons
      ⟨hnext.outcome, hnext.outline, congrArg (remark :: ·) hnext.remarks, hnext.answers⟩

/-- There is an answer, since every script ends. -/
theorem asked_run_probed {probe : Script (ρ ⊕ β) β} {answer : β} (h : probe.Quiet heading answer)
    (script : Script ρ α) (outline : Outline) :
    ((script.probed probe).run heading outline).remarks.filterMap Sum.getRight? ≠ [] := by
  -- Whatever the script does first, the probe was asked before.
  cases script <;> rw [probed, run_noted h] <;> simp

/-! ## What a script can ask about its case -/

theorem quiet_heading : (Script.heading : Script ρ Heading).Quiet heading heading := by
  intro outline
  rfl

theorem quiet_hasTag (tag : Text) :
    (hasTag tag : Script ρ Bool).Quiet heading (heading.hasTag tag) := by
  intro outline
  rfl

theorem quiet_hasBrowser (fragment : Text) :
    (hasBrowser fragment : Script ρ Bool).Quiet heading (heading.hasBrowser fragment) := by
  intro outline
  rfl

end Casebook.Script
