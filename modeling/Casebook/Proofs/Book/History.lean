import Casebook.Proofs.Book.Submit
import Mathlib.Data.List.Nodup

/-! # Judgement by history

    A book decides about a submission by two lists of taken names.  Seen from
    outside it decides by the submissions before: it looks for the id among all
    of them, and for the title among those that got past the checks of their own
    ids.  What became of the earlier submissions does not matter.

    `Book.Follows` ties the taken names to the history, and `Judged` says in
    terms of the history what is reported on a submission.
-/

namespace Casebook

variable {ρ : Type}

/-! ## Looking through the history -/

/-- An earlier submission has the id, whatever became of it. -/
def IdUsed (earlier : List (Submission ρ)) (id : Text) : Prop :=
  ∃ other ∈ earlier, other.id = id

/-- The submission gets past the checks of its id. -/
def Identified (earlier : List (Submission ρ)) (s : Submission ρ) : Prop :=
  ¬ Text.Blank s.id ∧ ¬ IdUsed earlier s.id

/-- An earlier submission that got past the checks of its id has the title,
    whatever became of it then. -/
def TitleUsed (config : Configuration) (earlier : List (Submission ρ)) (title : Text) : Prop :=
  ∃ before other after, earlier = before ++ other :: after ∧ Identified before other ∧
    config.titleOf other.metadata = title

theorem idUsed_concat {earlier : List (Submission ρ)} {s : Submission ρ} {id : Text} :
    IdUsed (earlier ++ [s]) id ↔ IdUsed earlier id ∨ s.id = id := by
  simp [IdUsed, or_and_right, exists_or]

theorem titleUsed_concat {config : Configuration} {earlier : List (Submission ρ)}
    {s : Submission ρ} {title : Text} :
    TitleUsed config (earlier ++ [s]) title ↔
      TitleUsed config earlier title ∨
        Identified earlier s ∧ config.titleOf s.metadata = title := by
  constructor
  · intro hright
    obtain ⟨before, other, after, hcut, hother, htitle⟩ := hright
    rcases List.eq_nil_or_concat after with rfl | ⟨after, last, rfl⟩
    · -- The submission with the title is the last one.
      obtain ⟨rfl, hlast⟩ := List.append_inj' hcut rfl
      obtain rfl := List.singleton_inj.1 hlast
      exact Or.inr ⟨hother, htitle⟩
    · left
      rw [List.concat_eq_append, ← List.cons_append, ← List.append_assoc] at hcut
      exact ⟨before, other, after, (List.append_inj' hcut rfl).1, hother, htitle⟩
  · intro hcase
    rcases hcase with ⟨before, other, after, rfl, hother, htitle⟩ | ⟨hs, htitle⟩
    · exact ⟨before, other, after ++ [s], by simp, hother, htitle⟩
    · exact ⟨earlier, s, [], rfl, hs, htitle⟩

/-! ## What the history decides -/

/-- What is reported on a submission, by the submissions before it: each of the
    three refusals exactly in its case, and otherwise the report on its script. -/
structure Judged (config : Configuration) (earlier : List (Submission ρ)) (s : Submission ρ)
    (report : Report ρ) : Prop where
  missingId : report = .refusal .missingIdentifier ↔ Text.Blank s.id
  duplicateId : report = .refusal (.duplicateIdentifier s.id) ↔
    ¬ Text.Blank s.id ∧ IdUsed earlier s.id
  duplicateTitle : report = .refusal (.duplicateTitle (config.titleOf s.metadata)) ↔
    Identified earlier s ∧ TitleUsed config earlier (config.titleOf s.metadata)
  completed : report = s.complete (config.heading s.id s.metadata) ↔
    Identified earlier s ∧ ¬ TitleUsed config earlier (config.titleOf s.metadata)
  started : report.started = true ↔
    Identified earlier s ∧ ¬ TitleUsed config earlier (config.titleOf s.metadata)

namespace Book

/-- The names that a book has taken are those in use in its history. -/
structure Follows (book : Book) (config : Configuration) (history : List (Submission ρ)) :
    Prop where
  sameConfig : book.config = config
  ids : ∀ id, id ∈ book.ids ↔ ¬ Text.Blank id ∧ IdUsed history id
  titles : ∀ title, title ∈ book.titles ↔ TitleUsed config history title

theorem follows_empty (config : Configuration) :
    (empty config).Follows config ([] : List (Submission ρ)) where
  sameConfig := rfl
  ids id := by simp [empty, IdUsed]
  titles title := by simp [empty, TitleUsed]

section Step

variable {book : Book} {config : Configuration} {history : List (Submission ρ)}

/-- A free id is one that passes the checks. -/
theorem Follows.identified_iff (h : book.Follows config history) (s : Submission ρ) :
    ¬ Text.Blank s.id ∧ s.id ∉ book.ids ↔ Identified history s := by
  unfold Identified
  rw [h.ids]
  tauto

/-- One more submission is one more entry of the history, on every exit. -/
theorem Follows.submit (h : book.Follows config history) (s : Submission ρ) :
    (book.submit s).1.Follows config (history ++ [s]) where
  sameConfig := by rw [config_submit, h.sameConfig]
  ids id := by
    rw [mem_ids_submit, idUsed_concat, h.ids]
    constructor
    · intro hcase
      rcases hcase with ⟨hid, hused⟩ | ⟨hid, rfl⟩
      · exact ⟨hid, Or.inl hused⟩
      · exact ⟨hid, Or.inr rfl⟩
    · intro hcase
      rcases hcase with ⟨hid, hused | rfl⟩
      · exact Or.inl ⟨hid, hused⟩
      · exact Or.inr ⟨hid, rfl⟩
  titles title := by
    rw [mem_titles_submit, titleUsed_concat, h.titles, h.identified_iff, h.sameConfig]

/-- **The report on a submission** is that of its history. -/
theorem Follows.judged (h : book.Follows config history) (s : Submission ρ) :
    Judged config history s (book.submit s).2 := by
  obtain ⟨next, report, hexit, hsubmit⟩ := submit_cases book s
  rw [hsubmit]
  have hids := h.ids s.id
  have htitles := h.titles (config.titleOf s.metadata)
  rw [← h.sameConfig] at htitles ⊢
  -- On each exit the history answers the three questions in one way, and the
  -- four reports that are possible differ from each other.
  cases hexit with
  | blankId hblank =>
    have hs : ¬ Identified history s := by
      intro hs
      exact hs.1 hblank
    refine ⟨?_, ?_, ?_, ?_, ?_⟩ <;> simp [hblank, hs]
  | takenId hid htaken =>
    have hused : IdUsed history s.id := (hids.1 htaken).2
    have hs : ¬ Identified history s := by
      intro hs
      exact hs.2 hused
    refine ⟨?_, ?_, ?_, ?_, ?_⟩ <;> simp [hid, hused, hs]
  | takenTitle hid hfree htaken =>
    have hunused : ¬ IdUsed history s.id := by
      intro hused
      exact hfree (hids.2 ⟨hid, hused⟩)
    have hs : Identified history s := ⟨hid, hunused⟩
    have htitle := htitles.1 htaken
    refine ⟨?_, ?_, ?_, ?_, ?_⟩ <;> simp [hid, hunused, hs, htitle]
  | completed hid hfree htitle =>
    have hunused : ¬ IdUsed history s.id := by
      intro hused
      exact hfree (hids.2 ⟨hid, hused⟩)
    have hs : Identified history s := ⟨hid, hunused⟩
    rw [htitles] at htitle
    have hne (fault : Fault) := (Report.refusal_ne_complete fault s
      (book.config.heading s.id s.metadata)).symm
    refine ⟨?_, ?_, ?_, ?_, ?_⟩ <;> simp [hid, hunused, hs, htitle, hne]

/-- The names in use after more submissions. -/
theorem Follows.submitAll (h : book.Follows config history) (more : List (Submission ρ)) :
    (book.submitAll more).1.Follows config (history ++ more) := by
  -- By induction on the submissions still to come; the history grows by each.
  induction more generalizing book history with
  | nil =>
    rw [List.append_nil]
    exact h
  | cons s rest ih =>
    have hrest := ih (h.submit s)
    rw [List.append_assoc, List.singleton_append] at hrest
    exact hrest

end Step

/-! ## Distinct names -/

/-- No two committed cases share an id or a title. -/
structure Distinct (book : Book) : Prop where
  ids : (book.cases.map fun c => c.id).Nodup
  titles : (book.cases.map fun c => c.title).Nodup

/-- The names of the committed cases are taken, each by one of them only. -/
structure Named (book : Book) : Prop extends Distinct book where
  takenIds : ∀ c ∈ book.cases, c.id ∈ book.ids
  takenTitles : ∀ c ∈ book.cases, c.title ∈ book.titles

theorem named_empty (config : Configuration) : (empty config).Named where
  ids := List.nodup_nil
  titles := List.nodup_nil
  takenIds c hmem := by cases hmem
  takenTitles c hmem := by cases hmem

/-- A name that is not taken is none of the names in use. -/
theorem nodup_map_concat {name : Case → Text} {cases : List Case} {c : Case} {taken : List Text}
    (h : (cases.map name).Nodup) (htaken : ∀ other ∈ cases, name other ∈ taken)
    (hfree : name c ∉ taken) : ((cases ++ [c]).map name).Nodup := by
  rw [List.map_append, List.map_singleton, ← List.concat_eq_append, List.nodup_concat]
  refine ⟨?_, h⟩
  intro hmem
  obtain ⟨other, hother, heq⟩ := List.mem_map.1 hmem
  exact hfree (heq ▸ htaken other hother)

/-- A case is committed under names that were free, and they are taken with it. -/
theorem Named.submit {book : Book} (h : book.Named) (s : Submission ρ) :
    (book.submit s).1.Named := by
  have hids : ∀ id ∈ book.ids, id ∈ (book.submit s).1.ids := by
    intro id hmem
    exact mem_ids_submit.2 (Or.inl hmem)
  have htitles : ∀ title ∈ book.titles, title ∈ (book.submit s).1.titles := by
    intro title hmem
    exact mem_titles_submit.2 (Or.inl hmem)
  rcases cases_submit book s with hcases | ⟨c, hcases, hc⟩
  · refine ⟨⟨?_, ?_⟩, ?_, ?_⟩ <;> rw [hcases]
    · exact h.ids
    · exact h.titles
    · intro c hmem
      exact hids c.id (h.takenIds c hmem)
    · intro c hmem
      exact htitles c.title (h.takenTitles c hmem)
  · -- The new case has the names that its submission takes.
    have hid : c.id = s.id := congrArg Heading.id hc.heading_eq
    have htitle : c.title = book.config.titleOf s.metadata := congrArg Heading.title hc.heading_eq
    refine ⟨⟨?_, ?_⟩, ?_, ?_⟩ <;> rw [hcases]
    · exact nodup_map_concat h.ids h.takenIds (hid ▸ hc.freeId)
    · exact nodup_map_concat h.titles h.takenTitles (htitle ▸ hc.freeTitle)
    · intro other hmem
      rcases List.mem_append.1 hmem with hmem | hmem
      · exact hids other.id (h.takenIds other hmem)
      · obtain rfl := List.mem_singleton.1 hmem
        exact mem_ids_submit.2 (Or.inr ⟨hc.hasId, hid.symm⟩)
    · intro other hmem
      rcases List.mem_append.1 hmem with hmem | hmem
      · exact htitles other.title (h.takenTitles other hmem)
      · obtain rfl := List.mem_singleton.1 hmem
        exact mem_titles_submit.2 (Or.inr ⟨⟨hc.hasId, hc.freeId⟩, htitle.symm⟩)

/-! ## The main result -/

/-- **Submissions are judged by their history.**  Take any submission out of a
    list of submissions to an empty book.  The report on it is the one that the
    submissions before it decide, one case or one failure is recorded for it
    behind the earlier ones, the rest of the list changes none of them, and no
    two committed cases share an id or a title. -/
theorem submission_judged (config : Configuration) (earlier : List (Submission ρ))
    (s : Submission ρ) (later : List (Submission ρ)) :
    ∃ report, ((empty config).submitAll (earlier ++ s :: later)).2[earlier.length]? = some report ∧
      Judged config earlier s report ∧
      Recorded ((empty config).submitAll earlier).1 s.id report
        ((empty config).submitAll (earlier ++ [s])).1 ∧
      Extends ((empty config).submitAll (earlier ++ [s])).1
        ((empty config).submitAll (earlier ++ s :: later)).1 ∧
      Distinct ((empty config).submitAll (earlier ++ s :: later)).1 := by
  have hfollows := (follows_empty config).submitAll earlier
  have hnamed : ((empty config).submitAll (earlier ++ s :: later)).1.Named :=
    submitAll_invariant (fun _ s h => h.submit s) (named_empty config) _
  -- The list is cut twice: before the submission and behind it.
  have hlater := submitAll_append (empty config) (earlier ++ [s]) later
  rw [List.append_assoc, List.singleton_append] at hlater
  rw [List.nil_append] at hfollows
  refine ⟨(((empty config).submitAll earlier).1.submit s).2, ?_, hfollows.judged s, ?_, ?_,
    hnamed.toDistinct⟩
  · rw [submitAll_append, List.getElem?_append_right (by rw [length_submitAll]), length_submitAll,
      Nat.sub_self]
    rfl
  · rw [submitAll_append]
    exact recorded_submit _ s
  · rw [hlater]
    exact extends_submitAll _ later

end Book

end Casebook
