import Casebook.Case.Save
import Casebook.Proofs.Files.Disk
import Mathlib.Data.List.Induction
import Mathlib.Data.List.Nodup
import Mathlib.Data.Nat.Find

/-! # Saved cases

    What the files of a directory hold after cases were saved in it without a
    fault (`saved_texts`).

    Every case has a path of its own, but paths may lead to one place: then the
    last case that was written there is the one that is found.  Cases whose file
    names are plain names never meet, so each of them is found in its file.

    `Saved.Holds` is what one more case keeps (`Saved.Holds.add`).
-/

namespace Casebook

open Files (Disk Path)

/-- Both paths lead to one place of the disk. -/
def Files.Disk.SamePlace (disk : Disk) (path other : Path) : Prop :=
  ∃ place, disk.locate path = .ok place ∧ disk.locate other = .ok place

/-! ## One more case -/

/-- The cases were saved: each has its path, and at the place that it leads to
    stands its text, unless the path of a later case leads there. -/
structure Saved.Holds (directory : Path) (cases : List Case) (saved : Saved) : Prop where
  written : saved.written = cases.map (Case.savePath directory)
  texts : ∀ i (hi : i < cases.length), ∃ place,
    saved.disk.locate (cases[i].savePath directory) = .ok place ∧
      ((∀ k (hk : k < cases.length), i < k →
          saved.disk.locate (cases[k].savePath directory) ≠ .ok place) →
        saved.disk.node? place = some (.file (Files.encode cases[i].render)))

theorem Saved.holds_nil (directory : Path) (disk : Disk) :
    ({ disk } : Saved).Holds directory [] where
  written := rfl
  texts i hi := absurd hi (Nat.not_lt_zero i)

/-- A case that is saved is written. -/
theorem Saved.exists_of_add {directory : Path} {saved : Saved} {c : Case}
    (h : (saved.add directory c).fault? = none) :
    saved.fault? = none ∧ ∃ disk,
      saved.disk.writeText (c.savePath directory) c.render = .ok disk ∧
        saved.add directory c =
          { disk, written := saved.written ++ [c.savePath directory] } := by
  unfold Saved.add at h ⊢
  split at h
  next fault hfault =>
    rw [hfault] at h
    cases h
  next hfault =>
    refine ⟨hfault, ?_⟩
    simp only at h ⊢
    cases hwrite : saved.disk.writeText (c.savePath directory) c.render with
    | error cause =>
      rw [hwrite] at h
      cases h
    | ok disk => exact ⟨disk, rfl, rfl⟩

/-- **One more case** is written, and only a case at the same place is lost by
    it. -/
theorem Saved.Holds.add {directory : Path} {cases : List Case} {saved : Saved}
    (h : saved.Holds directory cases) {c : Case} (hadd : (saved.add directory c).fault? = none) :
    (saved.add directory c).Holds directory (cases ++ [c]) := by
  obtain ⟨-, disk, hwrite, hsaved⟩ := exists_of_add hadd
  obtain ⟨target, htarget, hfree, hput, hfound⟩ := Disk.exists_of_writeText hwrite
  have hgrows : saved.disk.Grows disk := hput ▸ Disk.grows_put htarget hfree _
  rw [hsaved]
  refine ⟨?_, ?_⟩
  · show saved.written ++ [c.savePath directory] = _
    rw [h.written, List.map_append, List.map_singleton]
  · intro i hi
    have hlength : (cases ++ [c]).length = cases.length + 1 := by simp
    by_cases hlast : i = cases.length
    · -- The new case stands at the place that it was put at.
      subst hlast
      refine ⟨target, ?_, ?_⟩
      · rw [List.getElem_concat_length rfl]
        exact hfound
      · intro _
        rw [List.getElem_concat_length rfl]
        show disk.node? target = _
        rw [hput, Disk.node?_put htarget, if_pos rfl]
    · -- An earlier case is found where it was, and stays there if the new one is elsewhere.
      have hi' : i < cases.length := by omega
      obtain ⟨place, hplace, htext⟩ := h.texts i hi'
      refine ⟨place, ?_, ?_⟩
      · rw [List.getElem_append_left hi']
        exact hgrows.locate hplace
      · intro hlater
        rw [List.getElem_append_left hi']
        have hother : place ≠ target := by
          intro heq
          have hmeet := hlater cases.length (by omega) hi'
          rw [List.getElem_concat_length rfl, heq] at hmeet
          exact hmeet hfound
        show disk.node? place = _
        rw [hput, Disk.node?_put htarget, if_neg hother]
        apply htext
        intro k hk hik hmeet
        have hmeet' := hlater k (by omega) hik
        rw [List.getElem_append_left hk] at hmeet'
        exact hmeet' (hgrows.locate hmeet)

/-- **Saving cases one after the other**, as long as there is no fault. -/
theorem Saved.holds_foldl {directory : Path} {disk : Disk} {cases : List Case}
    (h : (cases.foldl (Saved.add directory) { disk }).fault? = none) :
    (cases.foldl (Saved.add directory) { disk }).Holds directory cases := by
  induction cases using List.reverseRecOn with
  | nil => exact holds_nil directory disk
  | append_singleton cases c ih =>
    rw [List.foldl_append, List.foldl_cons, List.foldl_nil] at h ⊢
    exact (ih (exists_of_add h).1).add h

/-! ## All cases -/

/-- Saving that ends well has written all cases, in order. -/
theorem holds_saveCases {disk : Disk} {directory : Path} {cases : List Case} {paths : List Path}
    (h : (saveCases disk directory cases).result = .ok paths) :
    (saveCases disk directory cases).Holds directory cases ∧
      paths = cases.map (Case.savePath directory) := by
  have hfault : (saveCases disk directory cases).fault? = none ∧
      (saveCases disk directory cases).written = paths := by
    unfold Saved.result at h
    split at h
    · cases h
    next hnone => exact ⟨hnone, Except.ok.inj h⟩
  have hholds : (saveCases disk directory cases).Holds directory cases := by
    have hnone := hfault.1
    unfold saveCases at hnone ⊢
    split at hnone
    next hempty =>
      rw [if_pos hempty, List.isEmpty_iff.1 hempty]
      exact Saved.holds_nil directory disk
    next hempty =>
      rw [if_neg hempty]
      split at hnone
      · cases hnone
      next after hmade => exact Saved.holds_foldl hnone
  exact ⟨hholds, by rw [← hholds.written, hfault.2]⟩

/-- A case is found at its path with the text of the last case that was written
    to the same place. -/
theorem Saved.Holds.exists_last {directory : Path} {cases : List Case} {saved : Saved}
    (h : saved.Holds directory cases) {i : Nat} (hi : i < cases.length) :
    ∃ j, ∃ hj : j < cases.length, i ≤ j ∧
      saved.disk.SamePlace (cases[j].savePath directory) (cases[i].savePath directory) ∧
      saved.disk.readText (cases[i].savePath directory) = .ok cases[j].render ∧
      ∀ k (hk : k < cases.length), j < k →
        ¬ saved.disk.SamePlace (cases[k].savePath directory) (cases[i].savePath directory) := by
  classical
  obtain ⟨place, hplace, -⟩ := h.texts i hi
  -- The last case is the one with the greatest number among those at the place.
  let Meets (k : Nat) : Prop := ∃ hk : k < cases.length,
    saved.disk.locate (cases[k].savePath directory) = .ok place
  have hmeets : Meets i := ⟨hi, hplace⟩
  have hbound : i ≤ cases.length := Nat.le_of_lt hi
  obtain ⟨hj, hlast⟩ : Meets (Nat.findGreatest Meets cases.length) :=
    Nat.findGreatest_spec hbound hmeets
  have hgreatest : ∀ k (hk : k < cases.length), Nat.findGreatest Meets cases.length < k →
      saved.disk.locate (cases[k].savePath directory) ≠ .ok place := by
    intro k hk hlt hmeet
    exact Nat.findGreatest_is_greatest hlt (Nat.le_of_lt hk) ⟨hk, hmeet⟩
  refine ⟨_, hj, Nat.le_findGreatest hbound hmeets, ⟨place, hlast, hplace⟩, ?_, ?_⟩
  · obtain ⟨place', hplace', htext⟩ := h.texts _ hj
    rw [hlast, Except.ok.injEq] at hplace'
    subst hplace'
    exact Disk.readText_of_locate hplace (htext hgreatest)
  · intro k hk hlt hsame
    obtain ⟨place', hk', hi'⟩ := hsame
    rw [hplace, Except.ok.injEq] at hi'
    subst hi'
    exact hgreatest k hk hlt hk'

/-- Cases with file names that are made of names and lead to one place have one
    id. -/
theorem id_eq_of_samePlace {disk : Disk} {directory : Path} {c other : Case}
    (hc : ∀ part ∈ Path.parts c.fileName, Disk.isName part = true)
    (hother : ∀ part ∈ Path.parts other.fileName, Disk.isName part = true)
    (h : disk.SamePlace (c.savePath directory) (other.savePath directory)) : c.id = other.id := by
  obtain ⟨place, hplace, hplace'⟩ := h
  have hname : c.fileName = other.fileName := Disk.eq_of_locate_join hc hother hplace hplace'
  exact List.append_cancel_right hname

/-- **Saving.**  If cases are saved without a fault, there is one path for each of
    them, in order, and at each path stands the text of the last case that was
    written to its place.

    So no case is lost when different ids make different files: each case is
    found at its path if the ids differ and no part of a file name is empty, a dot
    or two dots. -/
theorem saved_texts {disk : Disk} {directory : Path} {cases : List Case} {paths : List Path}
    (h : (saveCases disk directory cases).result = .ok paths) :
    paths = cases.map (fun c => Path.join directory (c.id ++ ".rfml".toList)) ∧
      (∀ i (hi : i < cases.length), ∃ j, ∃ hj : j < cases.length, i ≤ j ∧
        (saveCases disk directory cases).disk.SamePlace
          (cases[j].savePath directory) (cases[i].savePath directory) ∧
        (saveCases disk directory cases).disk.readText (cases[i].savePath directory) =
          .ok cases[j].render ∧
        ∀ k (hk : k < cases.length), j < k → ¬ (saveCases disk directory cases).disk.SamePlace
          (cases[k].savePath directory) (cases[i].savePath directory)) ∧
      ((cases.map fun c => c.id).Nodup →
        (∀ c ∈ cases, ∀ part ∈ Path.parts c.fileName, Disk.isName part = true) →
        ∀ c ∈ cases, (saveCases disk directory cases).disk.readText (c.savePath directory) =
          .ok c.render) := by
  obtain ⟨hholds, hpaths⟩ := holds_saveCases h
  refine ⟨hpaths, fun i hi => hholds.exists_last hi, ?_⟩
  intro hids hnames c hmem
  obtain ⟨i, hi, rfl⟩ := List.getElem_of_mem hmem
  obtain ⟨j, hj, -, hsame, hread, -⟩ := hholds.exists_last hi
  -- The case that is found has the same id, so it is the same case.
  have hid : cases[j].id = cases[i].id :=
    id_eq_of_samePlace (hnames _ (List.getElem_mem hj)) (hnames _ (List.getElem_mem hi)) hsame
  have hcase : cases[j] = cases[i] :=
    List.inj_on_of_nodup_map hids (List.getElem_mem hj) (List.getElem_mem hi) hid
  rwa [hcase] at hread

/-- A case of one step. -/
def glance (id title : Text) : Case where
  id
  title
  path := defaultPath
  steps := [{ instruction := "Look.".toList, question := "See it?".toList }]

/-- Two cases beside each other, in directories that are there already. -/
theorem saved_texts_beside :
    let disk : Disk :=
      { nodes := [(["out".toList], .directory), (["out".toList, ['b']], .directory)] }
    let cases := [glance ['a'] "first".toList, glance "b/a".toList "second".toList]
    (saveCases disk "out".toList cases).result = .ok ["out/a.rfml".toList, "out/b/a.rfml".toList] ∧
      (cases.map fun c => c.id).Nodup ∧
      (∀ c ∈ cases, ∀ part ∈ Path.parts c.fileName, Disk.isName part = true) ∧
      ∀ c ∈ cases, (saveCases disk "out".toList cases).disk.readText (c.savePath "out".toList) =
        .ok c.render := by
  intro disk cases
  have hresult : (saveCases disk "out".toList cases).result =
      .ok ["out/a.rfml".toList, "out/b/a.rfml".toList] := by decide +kernel
  have hids : (cases.map fun c => c.id).Nodup := by decide
  have hnames : ∀ c ∈ cases, ∀ part ∈ Path.parts c.fileName, Disk.isName part = true := by decide
  exact ⟨hresult, hids, hnames, (saved_texts hresult).2.2 hids hnames⟩

/-- Different ids do not suffice: a dot in front of a name makes another id and
    the same file, in which only the later case is found. -/
theorem saved_texts_dotted :
    let first := glance ['a'] "first".toList
    let second := glance "./a".toList "second".toList
    let saved := saveCases {} "out".toList [first, second]
    ([first, second].map fun c => c.id).Nodup ∧
      saved.result = .ok ["out/a.rfml".toList, "out/./a.rfml".toList] ∧
      saved.disk.readText "out/a.rfml".toList = .ok second.render ∧
      first.render ≠ second.render := by
  decide +kernel

end Casebook
