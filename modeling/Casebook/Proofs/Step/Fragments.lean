import Casebook.Proofs.Step.Outline

/-! # Instructions in fragments

    An instruction may be declared in several fragments, one after the other.
    They all go to the step that the first of them opens, so one step is added
    (`Outline.foldl_instruct_of_settled`), and its instruction has the normal form
    of the fragments in one text (`Outline.ask_fragments`).  So a reference can
    begin in one fragment and end in another, and it does not matter which of
    them are blank.
-/

namespace Casebook

open Text

namespace Step

/-- Each fragment stands behind a space of its own. -/
theorem foldl_extend (step : Step) (fragments : List Text) :
    fragments.foldl extend step =
      { step with instruction := step.instruction ++ fragments.flatMap (' ' :: ·) } := by
  induction fragments generalizing step with
  | nil => rw [List.foldl_nil, List.flatMap_nil, List.append_nil]
  | cons fragment rest ih =>
    rw [List.foldl_cons, ih, extend, List.flatMap_cons]
    simp only [List.append_assoc, List.cons_append]

/-- A space in front of every fragment is one in front of the fragments joined. -/
theorem flatMap_cons_space {fragments : List Text} (h : fragments ≠ []) :
    fragments.flatMap (' ' :: ·) = ' ' :: joinWith [' '] fragments := by
  induction fragments with
  | nil => exact absurd rfl h
  | cons fragment rest ih =>
    cases rest with
    | nil => rw [List.flatMap_singleton, joinWith_singleton]
    | cons next rest =>
      rw [List.flatMap_cons, ih (List.cons_ne_nil next rest), joinWith_cons_cons,
        List.append_assoc, List.singleton_append, List.cons_append]

end Step

namespace Outline

/-- While the last step waits for its question, all instructions go to it. -/
theorem foldl_instruct_push {last : Step} (hopen : last.question = []) (front : Outline)
    (fragments : List Text) :
    fragments.foldl instruct (front.push last) = front.push (fragments.foldl Step.extend last) := by
  induction fragments generalizing last with
  | nil => rfl
  | cons fragment rest ih =>
    have hisOpen : last.isOpen = true := List.isEmpty_iff.2 hopen
    have hextended : (last.extend fragment).question = [] := hopen
    rw [List.foldl_cons, List.foldl_cons, instruct_push, if_pos hisOpen, ih hextended]

/-- **Fragments make one step** when none waits: the first one opens it, and the
    others find it waiting. -/
theorem foldl_instruct_of_settled {outline : Outline} (h : outline.Settled)
    {fragments : List Text} (hne : fragments ≠ []) :
    fragments.foldl instruct outline =
      outline.push { instruction := ' ' :: joinWith [' '] fragments } := by
  obtain ⟨first, rest, rfl⟩ := List.exists_cons_of_ne_nil hne
  rw [List.foldl_cons, instruct_of_settled h, foldl_instruct_push rfl, ← List.foldl_cons,
    Step.foldl_extend, Step.flatMap_cons_space hne]
  rfl

/-- **Fragments and one text** come to the same instruction.  When no step waits
    for its question, fragments and a question put one step behind the others,
    and its instruction has the normal form of the fragments joined. -/
theorem ask_fragments {outline : Outline} (h : outline.Settled) {fragments : List Text}
    (hne : fragments ≠ []) (question : Text) :
    ∃ step : Step, (fragments.foldl instruct outline).ask question = .ok (outline.push step) ∧
      step.question = Marker.strip question ∧
      step.normal.instruction = normalizeFragments fragments := by
  refine ⟨{ instruction := ' ' :: joinWith [' '] fragments, question := Marker.strip question },
    ?_, rfl, ?_⟩
  · rw [foldl_instruct_of_settled h hne, ask_push]
    rfl
  · -- The space in front is no word.
    exact normalize_eq_of_words_eq (words_cons_of_blank isBlank_space _)

/-- Behind a step that has its question: a reference that reaches over an empty
    fragment, and a blank fragment in front of it. -/
theorem ask_fragments_straddled :
    let fragments : List Text := [['\n'], "See \x7b\x7ba".toList, [], "/b.gif\x7d\x7d".toList]
    let outline : Outline := ⟨[{ instruction := ['a'], question := ['b', '?'] }]⟩
    outline.Settled ∧ fragments ≠ [] ∧
      ∃ step : Step, (fragments.foldl instruct outline).ask " q: Is it on?".toList =
          .ok (outline.push step) ∧
        step.question = Marker.strip " q: Is it on?".toList ∧
        step.normal.instruction = normalizeFragments fragments := by
  intro fragments outline
  have hsettled : outline.Settled := settled_push (by decide) {}
  have hne : fragments ≠ [] := by decide
  exact ⟨hsettled, hne, ask_fragments hsettled hne " q: Is it on?".toList⟩

/-- Fragments of which some are blank, with a reference that begins in the second
    and ends in the last one. -/
example :
    normalizeFragments
        [[], " Open\n\x7b\x7bimg/".toList, "\u2003".toList, "start.png\x7d\x7d now. ".toList] =
      "Open \x7b\x7bfile.screenshot(../img/ start.png)\x7d\x7d now.".toList := by
  decide +kernel

end Outline

end Casebook
