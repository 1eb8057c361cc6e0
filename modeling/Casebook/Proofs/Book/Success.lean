import Casebook.Proofs.Book.Submit

/-! # Runs without failures

    A run has no failures when nothing is wrong with any one submission and no
    two of them are in each other's way (`Book.Accepts`,
    `Book.failures_submitAll_eq_iff`).  Leaving submissions out cannot break
    that (`Book.Accepts.sublist`), and what is committed for the others does not
    depend on them (`Book.cases_submitAll_of_failures_eq`).

    In a run with failures neither holds.  A submission that is refused for its
    id takes no title, so without the owner of the id it may take the title of a
    later one.
-/

namespace Casebook

variable {ρ : Type}

/-- The submissions have different ids and different titles. -/
structure Apart (config : Configuration) (s t : Submission ρ) : Prop where
  id : s.id ≠ t.id
  title : config.titleOf s.metadata ≠ config.titleOf t.metadata

/-- The cases that a script makes where no name is in the way: one, or none. -/
def Submission.cases (s : Submission ρ) (config : Configuration) : List Case :=
  (s.complete (config.heading s.id s.metadata)).cases

namespace Book

variable {book : Book}

/-! ## When there are no failures -/

/-- Each of the submissions could be committed next, and any two are apart. -/
structure Accepts (book : Book) (history : List (Submission ρ)) : Prop where
  each : ∀ s ∈ history, ∃ c, Commits book s c
  apart : history.Pairwise (Apart book.config)

/-- **A part of what is accepted is accepted**, whatever is left out. -/
theorem Accepts.sublist {part history : List (Submission ρ)} (h : book.Accepts history)
    (hpart : part.Sublist history) : book.Accepts part where
  each s hs := h.each s (hpart.subset hs)
  apart := h.apart.sublist hpart

theorem failures_submit_eq_iff {s : Submission ρ} :
    (book.submit s).1.failures = book.failures ↔ ∃ c, Commits book s c := by
  obtain ⟨-, hfailures⟩ := recorded_iff.1 (recorded_submit book s)
  rw [hfailures, List.append_right_eq_self]
  unfold Report.failures
  constructor
  · intro hnone
    cases houtcome : (book.submit s).2.outcome with
    | ok c => exact ⟨c, commits_of_submit houtcome⟩
    | error fault =>
      rw [houtcome] at hnone
      cases hnone
  · intro hcommits
    obtain ⟨c, hc⟩ := hcommits
    rw [commits_iff.1 hc]

/-- There are no failures in a run if there are none in its first part and none
    from there on. -/
theorem failures_submitAll_append_eq_iff (first second : List (Submission ρ)) :
    (book.submitAll (first ++ second)).1.failures = book.failures ↔
      (book.submitAll first).1.failures = book.failures ∧
        ((book.submitAll first).1.submitAll second).1.failures =
          (book.submitAll first).1.failures := by
  rw [submitAll_append]
  constructor
  · intro h
    -- No failure is removed, so there is none in between.
    have hfirst := (extends_submitAll book first).failures
    have hsecond := (extends_submitAll (book.submitAll first).1 second).failures
    have hbetween : (book.submitAll first).1.failures = book.failures :=
      (h ▸ hsecond).sublist.antisymm hfirst.sublist
    exact ⟨hbetween, h.trans hbetween.symm⟩
  · intro hboth
    obtain ⟨hfirst, hsecond⟩ := hboth
    exact hsecond.trans hfirst

theorem failures_submitAll_cons_eq_iff {s : Submission ρ} {rest : List (Submission ρ)} :
    (book.submitAll (s :: rest)).1.failures = book.failures ↔
      (book.submit s).1.failures = book.failures ∧
        ((book.submit s).1.submitAll rest).1.failures = (book.submit s).1.failures :=
  failures_submitAll_append_eq_iff [s] rest

/-- After a submission is committed the names of the next one are free if they
    were so before and are not the same ones. -/
theorem Commits.submit_iff {s t : Submission ρ} {c d : Case} (h : Commits book s c) :
    Commits (book.submit s).1 t d ↔ Apart book.config s t ∧ Commits book t d := by
  have hids : t.id ∈ (book.submit s).1.ids ↔ t.id ∈ book.ids ∨ s.id = t.id := by
    rw [mem_ids_submit, and_iff_right h.hasId]
  have htitles : ∀ title, title ∈ (book.submit s).1.titles ↔
      title ∈ book.titles ∨ book.config.titleOf s.metadata = title := by
    intro title
    rw [mem_titles_submit, and_iff_right ⟨h.hasId, h.freeId⟩]
  constructor
  · intro hnext
    obtain ⟨hid, hfreeId, hfreeTitle, hcompleted⟩ := hnext
    rw [config_submit] at hfreeTitle hcompleted
    rw [hids, not_or] at hfreeId
    rw [htitles, not_or] at hfreeTitle
    exact ⟨⟨hfreeId.2, hfreeTitle.2⟩, hid, hfreeId.1, hfreeTitle.1, hcompleted⟩
  · intro hboth
    obtain ⟨⟨hid, htitle⟩, hcommits⟩ := hboth
    refine ⟨hcommits.hasId, ?_, ?_, ?_⟩
    · rw [hids, not_or]
      exact ⟨hcommits.freeId, hid⟩
    · rw [config_submit, htitles, not_or]
      exact ⟨hcommits.freeTitle, htitle⟩
    · rw [config_submit]
      exact hcommits.completed

/-- A list is accepted if what is behind its first submission is, once that is
    committed. -/
theorem Commits.accepts_cons_iff {s : Submission ρ} {rest : List (Submission ρ)} {c : Case}
    (h : Commits book s c) : book.Accepts (s :: rest) ↔ (book.submit s).1.Accepts rest := by
  constructor
  · intro hall
    obtain ⟨hfirst, hapart⟩ := List.pairwise_cons.1 hall.apart
    rw [← config_submit book s] at hapart
    refine ⟨?_, hapart⟩
    intro t ht
    obtain ⟨d, hd⟩ := hall.each t (List.mem_cons_of_mem s ht)
    exact ⟨d, h.submit_iff.2 ⟨hfirst t ht, hd⟩⟩
  · intro hrest
    have hapart := hrest.apart
    rw [config_submit] at hapart
    refine ⟨?_, List.Pairwise.cons ?_ hapart⟩
    · intro t ht
      rcases List.mem_cons.1 ht with rfl | ht
      · exact ⟨c, h⟩
      · obtain ⟨d, hd⟩ := hrest.each t ht
        exact ⟨d, (h.submit_iff.1 hd).2⟩
    · intro t ht
      obtain ⟨d, hd⟩ := hrest.each t ht
      exact (h.submit_iff.1 hd).1

/-- **A run has no failures** exactly if the book accepts its submissions. -/
theorem failures_submitAll_eq_iff {history : List (Submission ρ)} :
    (book.submitAll history).1.failures = book.failures ↔ book.Accepts history := by
  -- By induction on the run: the first submission is committed, and its names are
  -- what keeps the others apart from it.
  induction history generalizing book with
  | nil =>
    constructor
    · intro _
      exact ⟨List.forall_mem_nil _, List.Pairwise.nil⟩
    · intro _
      rfl
  | cons s rest ih =>
    constructor
    · intro h
      obtain ⟨hs, hrest⟩ := failures_submitAll_cons_eq_iff.1 h
      obtain ⟨c, hc⟩ := failures_submit_eq_iff.1 hs
      exact hc.accepts_cons_iff.2 (ih.1 hrest)
    · intro h
      obtain ⟨c, hc⟩ := h.each s List.mem_cons_self
      have hs := failures_submit_eq_iff.2 ⟨c, hc⟩
      have hrest := ih.2 (hc.accepts_cons_iff.1 h)
      exact failures_submitAll_cons_eq_iff.2 ⟨hs, hrest⟩

/-! ## What is committed then -/

/-- **What is committed in a run without failures** is what each script makes,
    in the order of the submissions. -/
theorem cases_submitAll_of_failures_eq {history : List (Submission ρ)}
    (h : (book.submitAll history).1.failures = book.failures) :
    (book.submitAll history).1.cases =
      book.cases ++ history.flatMap fun s => s.cases book.config := by
  induction history generalizing book with
  | nil => exact (List.append_nil _).symm
  | cons s rest ih =>
    obtain ⟨hs, hrest⟩ := failures_submitAll_cons_eq_iff.1 h
    obtain ⟨c, hc⟩ := failures_submit_eq_iff.1 hs
    have hfirst : (book.submit s).1.cases = book.cases ++ s.cases book.config := by
      obtain ⟨hcases, -⟩ := recorded_iff.1 (recorded_submit book s)
      unfold Submission.cases Report.cases
      unfold Report.cases at hcases
      rw [hcases, commits_iff.1 hc, hc.completed]
    have hlater := ih hrest
    rw [hfirst, config_submit, List.append_assoc] at hlater
    exact hlater

end Book

end Casebook
