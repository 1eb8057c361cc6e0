import Casebook.Case.Heading
import Casebook.Fault

/-! # Scripts

    A script declares the steps of a case.  It sees the heading of its case and
    the steps it has declared, may branch on them, and may give up with a fault.
    That is all it can do: a script does not see or touch other cases.

    Next to declaring steps a script can leave remarks of a type `ρ`.  They come
    out of the run in order and change nothing in it.
-/

namespace Casebook

/-- A script that leaves remarks `ρ` and ends with a value `α`. -/
inductive Script (ρ α : Type) where
  /-- ends with a value -/
  | done (value : α)
  /-- gives up -/
  | fail (fault : Fault)
  /-- declares a combined step -/
  | add (text : Text) (next : Script ρ α)
  /-- opens a step, or extends the open one -/
  | instruct (text : Text) (next : Script ρ α)
  /-- attaches a question, and goes on knowing whether that was possible -/
  | ask (text : Text) (next : Except IncompleteStep Unit → Script ρ α)
  /-- looks at the heading of the case -/
  | look (next : Heading → Script ρ α)
  /-- looks at the steps declared so far -/
  | review (next : List Step → Script ρ α)
  /-- leaves a remark -/
  | note (remark : ρ) (next : Script ρ α)

namespace Script

variable {ρ α β : Type}

/-! ## Writing scripts -/

/-- One script after another. -/
def bind (script : Script ρ α) (next : α → Script ρ β) : Script ρ β :=
  match script with
  | .done value => next value
  | .fail fault => .fail fault
  | .add text rest => .add text (rest.bind next)
  | .instruct text rest => .instruct text (rest.bind next)
  | .ask text rest => .ask text fun outcome => (rest outcome).bind next
  | .look rest => .look fun heading => (rest heading).bind next
  | .review rest => .review fun steps => (rest steps).bind next
  | .note remark rest => .note remark (rest.bind next)

instance : Monad (Script ρ) where
  pure := .done
  bind := bind

/-- Declares a combined step. -/
def step (text : Text) : Script ρ Unit :=
  .add text (.done ())

/-- Opens a step, or extends the open one. -/
def instruction (text : Text) : Script ρ Unit :=
  .instruct text (.done ())

/-- Attaches a question if that is possible. -/
def tryQuestion (text : Text) : Script ρ (Except IncompleteStep Unit) :=
  .ask text .done

/-- Attaches a question, or gives up if that is not possible. -/
def question (text : Text) : Script ρ Unit :=
  .ask text fun outcome =>
    match outcome with
    | .ok () => .done ()
    | .error cause => .fail (.incompleteStep cause)

/-- The heading of the case. -/
def heading : Script ρ Heading :=
  .look .done

/-- Does the case have the tag? -/
def hasTag (tag : Text) : Script ρ Bool :=
  .look fun heading => .done (heading.hasTag tag)

/-- Does the case run on a browser with this in its name? -/
def hasBrowser (fragment : Text) : Script ρ Bool :=
  .look fun heading => .done (heading.hasBrowser fragment)

/-- The steps declared so far. -/
def steps : Script ρ (List Step) :=
  .review .done

/-- Leaves a remark. -/
def say (remark : ρ) : Script ρ Unit :=
  .note remark (.done ())

/-! ## Running scripts -/

/-- How a run ends: with a value or a fault, with the steps declared and the
    remarks left up to then. -/
structure Run (ρ α : Type) where
  outcome : Except Fault α
  outline : Outline
  remarks : List ρ := []

/-- Runs a script for a case, from the steps that are there already. -/
def run (heading : Heading) : Script ρ α → Outline → Run ρ α
  | .done value, outline => { outcome := .ok value, outline }
  | .fail fault, outline => { outcome := .error fault, outline }
  | .add text next, outline => run heading next (outline.add text)
  | .instruct text next, outline => run heading next (outline.instruct text)
  | .ask text next, outline =>
    match outline.ask text with
    | .ok outline => run heading (next (.ok ())) outline
    | .error cause => run heading (next (.error cause)) outline
  | .look next, outline => run heading (next heading) outline
  | .review next, outline => run heading (next outline.steps) outline
  | .note remark next, outline =>
    let rest := run heading next outline
    { rest with remarks := remark :: rest.remarks }

end Script

end Casebook
