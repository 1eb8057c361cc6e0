import Casebook.Script

/-! # Scripts that do not look at tags

    A script sees the heading of its case with the tags in it.  If it goes on in
    the same way whatever tags it sees, it runs in the same way whatever tags
    there are (`Script.IgnoresTags.run_eq`).  Questions about the browsers are of
    this kind (`Script.ignoresTags_hasBrowser`).
-/

namespace Casebook.Script

variable {ρ α β : Type}

/-- Wherever the script looks at the heading, it goes on in the same way for all
    tags. -/
inductive IgnoresTags : Script ρ α → Prop
  | done (value : α) : IgnoresTags (.done value)
  | fail (fault : Fault) : IgnoresTags (.fail fault)
  | add (text : Text) {next : Script ρ α} (h : next.IgnoresTags) : IgnoresTags (.add text next)
  | instruct (text : Text) {next : Script ρ α} (h : next.IgnoresTags) :
      IgnoresTags (.instruct text next)
  | ask (text : Text) {next : Except IncompleteStep Unit → Script ρ α}
      (h : ∀ outcome, (next outcome).IgnoresTags) : IgnoresTags (.ask text next)
  | look {next : Heading → Script ρ α}
      (hsame : ∀ heading tags, next { heading with tags } = next heading)
      (h : ∀ heading, (next heading).IgnoresTags) : IgnoresTags (.look next)
  | review {next : List Step → Script ρ α} (h : ∀ steps, (next steps).IgnoresTags) :
      IgnoresTags (.review next)
  | note (remark : ρ) {next : Script ρ α} (h : next.IgnoresTags) : IgnoresTags (.note remark next)

/-! ## Writing such scripts -/

theorem IgnoresTags.bind {script : Script ρ α} {next : α → Script ρ β} (h : script.IgnoresTags)
    (hnext : ∀ value, (next value).IgnoresTags) : (script.bind next).IgnoresTags := by
  induction h with
  | done value => exact hnext value
  | fail fault => exact .fail fault
  | add text _ ih => exact .add text ih
  | instruct text _ ih => exact .instruct text ih
  | ask text _ ih => exact .ask text ih
  | look hsame _ ih =>
    refine .look ?_ ih
    intro heading tags
    rw [hsame]
  | review _ ih => exact .review ih
  | note remark _ ih => exact .note remark ih

theorem ignoresTags_step (text : Text) : (step text : Script ρ Unit).IgnoresTags :=
  .add text (.done ())

/-- A question about the browsers is none about the tags. -/
theorem ignoresTags_hasBrowser (fragment : Text) :
    (hasBrowser fragment : Script ρ Bool).IgnoresTags :=
  .look (fun _ _ => rfl) fun _ => .done _

/-! ## Running them -/

/-- **Tags do not matter** to a script that ignores them: it runs in the same way
    for two headings that differ in their tags. -/
theorem IgnoresTags.run_eq {script : Script ρ α} (h : script.IgnoresTags) (heading : Heading)
    (tags : List Text) (outline : Outline) :
    script.run { heading with tags } outline = script.run heading outline := by
  induction h generalizing outline with
  | done value => rfl
  | fail fault => rfl
  | add text _ ih => exact ih (outline.add text)
  | instruct text _ ih => exact ih (outline.instruct text)
  | ask text _ ih =>
    -- Whether the question can be attached is decided by the outline.
    rw [run, run]
    split
    next later hask => exact ih (.ok ()) later
    next cause hask => exact ih (.error cause) outline
  | look hsame _ ih =>
    rw [run, run, hsame]
    exact ih heading outline
  | review _ ih => exact ih outline.steps outline
  | note remark _ ih => rw [run, run, ih outline]

end Casebook.Script
