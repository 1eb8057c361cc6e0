import Casebook.Proofs.Step.LineEnds
import Casebook.Proofs.Metadata.LineEnds

/-! # Line ends in submissions

    Whether the lines of comments and step texts end with carriage returns makes
    no difference to what becomes of a submission (`Book.submit_withReturns`).

    * A comment declares the same with returns at the ends of its lines
      (`Metadata.ofComment_withReturns`).
    * A script declares alike outlines (`Script.alike_run`), as long as it does
      not look back at its steps: their raw texts do differ.
-/

namespace Casebook

open Text (withReturns)

/-! ## Scripts -/

namespace Script

variable {ρ α : Type}

/-- The script with other line ends in all texts that it declares. -/
def withReturns : Script ρ α → Script ρ α
  | .done value => .done value
  | .fail fault => .fail fault
  | .add text next => .add (Text.withReturns text) next.withReturns
  | .instruct text next => .instruct (Text.withReturns text) next.withReturns
  | .ask text next => .ask (Text.withReturns text) fun outcome => (next outcome).withReturns
  | .look next => .look fun heading => (next heading).withReturns
  | .review next => .review fun steps => (next steps).withReturns
  | .note remark next => .note remark next.withReturns

/-- The script does not look back at its steps, whatever it sees of its case. -/
def Forward : Script ρ α → Prop
  | .done _ => True
  | .fail _ => True
  | .add _ next => next.Forward
  | .instruct _ next => next.Forward
  | .ask _ next => ∀ outcome, (next outcome).Forward
  | .look next => ∀ heading, (next heading).Forward
  | .review _ => False
  | .note _ next => next.Forward

/-- The runs end in the same way, with alike outlines and the same remarks. -/
structure Run.Alike (run other : Run ρ α) : Prop where
  outcome : run.outcome = other.outcome
  outline : run.outline.Alike other.outline
  remarks : run.remarks = other.remarks

variable {heading : Heading}

/-- **Runs with other line ends are alike**, from alike outlines. -/
theorem alike_run {script : Script ρ α} (h : script.Forward) {outline other : Outline}
    (houtline : outline.Alike other) :
    (script.withReturns.run heading outline).Alike (script.run heading other) := by
  -- By induction on the script: what it goes on with depends on the heading and on
  -- whether a question could be attached, and both are the same.
  induction script generalizing outline other with
  | done value => exact ⟨rfl, houtline, rfl⟩
  | fail fault => exact ⟨rfl, houtline, rfl⟩
  | add text next ih => exact ih h (houtline.add text)
  | instruct text next ih => exact ih h (houtline.instruct text)
  | ask text next ih =>
    rw [withReturns, run, run]
    rcases houtline.ask text with ⟨later, later', hask, hask', hlater⟩ | ⟨cause, hask, hask'⟩
    · rw [hask, hask']
      exact ih (.ok ()) (h (.ok ())) hlater
    · rw [hask, hask']
      exact ih (.error cause) (h (.error cause)) houtline
  | look next ih => exact ih heading (h heading) houtline
  | review next ih => exact h.elim
  | note remark next ih =>
    obtain ⟨houtcome, hlater, hremarks⟩ := ih h houtline
    exact ⟨houtcome, hlater, congrArg (remark :: ·) hremarks⟩

end Script

/-! ## Submissions -/

namespace Book

variable {ρ : Type}

/-- **Line ends do not matter.**  A submission with carriage returns before the
    line breaks of its comment and of its step texts becomes what it is without
    them: the same case, or a refusal with the same fault.  Its script must not
    look back at its steps. -/
theorem submit_withReturns (book : Book) (id comment : Text) {script : Script ρ Unit}
    (h : script.Forward) :
    book.submit
        { id, metadata := .ofComment (withReturns comment), script := script.withReturns } =
      book.submit { id, metadata := .ofComment comment, script } := by
  rw [Metadata.ofComment_withReturns]
  have hcomplete : ∀ heading : Heading,
      Submission.complete
          { id, metadata := .ofComment comment, script := script.withReturns } heading =
        Submission.complete { id, metadata := .ofComment comment, script } heading := by
    intro heading
    have halike : (script.withReturns.run heading {}).Alike (script.run heading {}) :=
      Script.alike_run h Outline.Alike.empty
    obtain ⟨houtcome, houtline, hremarks⟩ := halike
    unfold Submission.complete
    simp only [houtcome, houtline.commit_eq, hremarks]
  unfold submit examine
  simp only [hcomplete]

/-- A comment with a value spread over pieces, a flag, and a return that is there
    already. -/
def mixedComment : Text :=
  "\n// title: a,\r\n // tags: wide, ,x\n//disabled\n".toList

/-- A script that goes on by a tag and by whether a question could be attached,
    with markers, an empty question and a file name spread over two lines. -/
def branchingScript : Script Unit Unit :=
  .add "Sign in.\nQ:\n q. are you\r\nin?\n".toList <|
  .look fun heading =>
    if heading.hasTag "wide".toList then
      .instruct "\nOpen \x7b\x7bimg/a\n.png\x7d\x7d\n".toList <|
      .ask "Q:\n".toList fun _ =>
      .ask "Q: is it\n\"on\"?".toList fun outcome =>
        match outcome with
        | .ok () => .done ()
        | .error cause => .fail (.incompleteStep cause)
    else .fail (.other [])

theorem submit_withReturns_mixed :
    branchingScript.Forward ∧
      (Book.empty {}).submit
          { id := "a".toList, metadata := .ofComment (withReturns mixedComment),
            script := branchingScript.withReturns } =
        (Book.empty {}).submit
          { id := "a".toList, metadata := .ofComment mixedComment, script := branchingScript } ∧
      (((Book.empty {}).submit
          { id := "a".toList, metadata := .ofComment (withReturns mixedComment),
            script := branchingScript.withReturns }).1.cases.map fun c => (c.title, c.steps)) =
        [("a".toList,
          [⟨"Sign in.".toList, "are you in?".toList⟩,
           ⟨"Open \x7b\x7bfile.screenshot(../img/a .png)\x7d\x7d".toList,
            "is it \"on\" ?".toList⟩])] := by
  have hforward : branchingScript.Forward := by
    intro heading
    dsimp only
    split
    · intro _ outcome
      rcases outcome with cause | ⟨⟩ <;> trivial
    · trivial
  exact ⟨hforward, submit_withReturns _ _ _ hforward, by decide +kernel⟩

end Book

end Casebook
