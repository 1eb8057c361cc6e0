import Casebook.Proofs.Book.Success
import Casebook.Suite
import Mathlib.Data.List.Flatten

/-! # Builds of a part

    A build may run some of the groups only.  It has fewer cases, and fewer names
    taken, before each of the groups than the build of the whole suite has.  If
    the whole builds without failures this makes no difference to the groups that
    run (`Suite.build_part`).
-/

namespace Casebook

variable {ρ : Type}

/-! ## What a group contributes -/

/-- The groups of a build, each with the cases that it puts behind those of the
    groups before. -/
def Build.contributions (build : Build) : List (Group ρ) → List (Group ρ × List Case)
  | [] => []
  | group :: rest =>
    (group, (build.addGroup group).book.cases.drop build.book.cases.length) ::
      (build.addGroup group).contributions rest

/-- Is the group one of those asked for? -/
def Group.isSelected (group : Group ρ) (only : List Text) : Bool :=
  only.isEmpty || only.contains group.name

/-- What the groups asked for contribute to the build of the whole suite. -/
def Suite.contributed (suite : Suite ρ) (config : Configuration) (only : List Text) : List Case :=
  ((Build.contributions { book := Book.empty config } suite.groups).filter
    fun contribution => contribution.1.isSelected only).flatMap Prod.snd

/-- The cases that the scripts of a group make where no name is in the way. -/
def Group.cases (group : Group ρ) (config : Configuration) : List Case :=
  group.submissions.flatMap fun s => s.cases config

namespace Build

theorem book_addGroup (build : Build) (group : Group ρ) :
    (build.addGroup group).book = (build.book.submitAll group.submissions).1 := rfl

/-- The groups of a build share one book: it takes their submissions one group
    after the other. -/
theorem book_foldl_addGroup (build : Build) (groups : List (Group ρ)) :
    (groups.foldl addGroup build).book =
      (build.book.submitAll (groups.flatMap Group.submissions)).1 := by
  induction groups generalizing build with
  | nil => rfl
  | cons group rest ih =>
    rw [List.foldl_cons, ih, List.flatMap_cons, Book.submitAll_append, book_addGroup]

/-- The cases of a build are what its groups contribute. -/
theorem cases_foldl_addGroup (build : Build) (groups : List (Group ρ)) :
    (groups.foldl addGroup build).book.cases =
      build.book.cases ++ (build.contributions groups).flatMap Prod.snd := by
  induction groups generalizing build with
  | nil => exact (List.append_nil _).symm
  | cons group rest ih =>
    -- A group leaves the cases that are there in their places.
    have hprefix : build.book.cases <+: (build.addGroup group).book.cases :=
      (Book.extends_submitAll build.book group.submissions).cases
    obtain ⟨added, hadded⟩ := hprefix
    rw [List.foldl_cons, ih, contributions, List.flatMap_cons, ← hadded, List.drop_left,
      List.append_assoc]

/-- **In a build without failures each group contributes its own cases**, the
    same ones in every build. -/
theorem contributions_of_failures_eq {build : Build} {groups : List (Group ρ)}
    (h : (groups.foldl addGroup build).book.failures = build.book.failures) :
    build.contributions groups = groups.map fun group => (group, group.cases build.book.config) := by
  rw [book_foldl_addGroup] at h
  induction groups generalizing build with
  | nil => rfl
  | cons group rest ih =>
    rw [List.flatMap_cons, Book.failures_submitAll_append_eq_iff] at h
    obtain ⟨hgroup, hrest⟩ := h
    have hconfig : (build.addGroup group).book.config = build.book.config :=
      Book.config_submitAll build.book group.submissions
    have hcases : (build.addGroup group).book.cases =
        build.book.cases ++ group.cases build.book.config :=
      Book.cases_submitAll_of_failures_eq hgroup
    have hlater : (build.addGroup group).contributions rest =
        rest.map fun group => (group, group.cases build.book.config) := by
      rw [← hconfig]
      exact ih hrest
    rw [contributions, hcases, List.drop_left, hlater]
    rfl

theorem cases_foldl_addGroup_of_failures_eq {build : Build} {groups : List (Group ρ)}
    (h : (groups.foldl addGroup build).book.failures = build.book.failures) :
    (groups.foldl addGroup build).book.cases =
      build.book.cases ++ groups.flatMap fun group => group.cases build.book.config := by
  rw [cases_foldl_addGroup, contributions_of_failures_eq h, List.flatMap_map]

/-- Groups can be left out of a build without failures. -/
theorem failures_foldl_addGroup_of_sublist {build : Build} {part groups : List (Group ρ)}
    (hpart : part.Sublist groups)
    (h : (groups.foldl addGroup build).book.failures = build.book.failures) :
    (part.foldl addGroup build).book.failures = build.book.failures := by
  rw [book_foldl_addGroup] at h ⊢
  have haccepts := Book.failures_submitAll_eq_iff.1 h
  have hsubmissions : (part.flatMap Group.submissions).Sublist
      (groups.flatMap Group.submissions) := hpart.flatMap Group.submissions
  exact Book.failures_submitAll_eq_iff.2 (haccepts.sublist hsubmissions)

end Build

/-! ## Selecting groups -/

namespace Suite

variable {suite : Suite ρ} {config : Configuration} {only : List Text}

theorem selected_eq_filter : suite.selected only =
    suite.groups.filter fun group => group.isSelected only := by
  unfold selected Group.isSelected
  split
  next hempty => simp [hempty]
  next hsome => simp [hsome]

theorem unknown_eq_filter :
    suite.unknown only = only.filter fun name => name ∉ suite.names := by
  simp only [unknown, List.contains_eq_mem, decide_not]

theorem mem_unknown_iff {name : Text} :
    name ∈ suite.unknown only ↔ name ∈ only ∧ name ∉ suite.names := by
  rw [unknown_eq_filter, List.mem_filter, decide_eq_true_iff]

theorem build_eq_ok (honly : ∀ name ∈ only, name ∈ suite.names) :
    suite.build config only =
      .ok ((suite.selected only).foldl Build.addGroup { book := Book.empty config }) := by
  have hunknown : suite.unknown only = [] := by
    rw [List.eq_nil_iff_forall_not_mem]
    intro name hmem
    obtain ⟨hasked, hmissing⟩ := mem_unknown_iff.1 hmem
    exact hmissing (honly name hasked)
  unfold build
  rw [hunknown]
  rfl

theorem build_eq_error (h : ∃ name ∈ only, name ∉ suite.names) :
    suite.build config only =
      .error (.unknownGroups (only.filter fun name => name ∉ suite.names)) := by
  obtain ⟨name, hmem, hname⟩ := h
  have hfound : name ∈ suite.unknown only := mem_unknown_iff.2 ⟨hmem, hname⟩
  have hsome : ¬ (suite.unknown only).isEmpty = true := by
    rw [List.isEmpty_iff]
    exact List.ne_nil_of_mem hfound
  unfold build
  rw [if_neg hsome, unknown_eq_filter]

theorem contributed_nil : suite.contributed config [] =
    (Build.contributions { book := Book.empty config } suite.groups).flatMap Prod.snd := by
  unfold contributed Group.isSelected
  simp

theorem contributed_of_failures_eq
    (h : (suite.groups.foldl Build.addGroup { book := Book.empty config }).book.failures = []) :
    suite.contributed config only =
      (suite.selected only).flatMap fun group => group.cases config := by
  unfold contributed
  rw [Build.contributions_of_failures_eq h, List.filter_map, List.flatMap_map, selected_eq_filter]
  rfl

/-- **Building a part gives what building the whole gives for it.**  If the whole
    suite builds without failures, then so does every selection of its groups, and
    the cases are those that these groups contribute to the whole, in the same
    order.

    Contributions are what groups add to the whole build, with or without
    failures: together they are all of its cases. -/
theorem build_part (suite : Suite ρ) (config : Configuration) {only : List Text}
    (honly : ∀ name ∈ only, name ∈ suite.names) :
    ∃ whole part : Build, suite.build config [] = .ok whole ∧ suite.build config only = .ok part ∧
      whole.book.cases = suite.contributed config [] ∧
      (whole.book.isSuccessful = true →
        part.book.isSuccessful = true ∧ part.book.cases = suite.contributed config only) := by
  refine ⟨_, _, build_eq_ok (List.forall_mem_nil _), build_eq_ok honly, ?_, ?_⟩
  · rw [contributed_nil, Build.cases_foldl_addGroup]
    rfl
  · intro hsuccess
    have hwhole : (suite.groups.foldl Build.addGroup
        { book := Book.empty config }).book.failures = [] := List.isEmpty_iff.1 hsuccess
    have hselected : (suite.selected only).Sublist suite.groups := by
      rw [selected_eq_filter]
      exact List.filter_sublist
    have hpart := Build.failures_foldl_addGroup_of_sublist hselected hwhole
    refine ⟨List.isEmpty_iff.2 hpart, ?_⟩
    rw [Build.cases_foldl_addGroup_of_failures_eq hpart, contributed_of_failures_eq hwhole]
    rfl

/-- A suite of two groups. -/
def siteSuite : Suite Empty where
  groups := [
    { name := "account".toList
      submissions := [
        { id := "sign-in".toList
          script := .step "Sign in.\nAre you in?".toList },
        { id := "sign-out".toList
          metadata := { title := some "leaving".toList }
          script := .step "Sign out.\nAre you out?".toList }] },
    { name := "news".toList
      submissions := [
        { id := "feed".toList
          metadata := { title := some "feed".toList, tags := ["news".toList] }
          script := .step "Open the feed.\nIs it there?".toList }] }]

theorem build_part_news :
    (∀ name ∈ ["news".toList], name ∈ siteSuite.names) ∧
      ∃ whole part : Build, siteSuite.build {} [] = .ok whole ∧
        siteSuite.build {} ["news".toList] = .ok part ∧
        whole.book.isSuccessful = true ∧ part.book.isSuccessful = true ∧
        part.book.cases = siteSuite.contributed {} ["news".toList] := by
  have hnames : ∀ name ∈ ["news".toList], name ∈ siteSuite.names := by decide
  obtain ⟨whole, part, hwhole, hpart, -, hsame⟩ := build_part siteSuite {} hnames
  have hsuccess : whole.book.isSuccessful = true := by
    have hbuilt : (siteSuite.build {} []).toOption.all
        (fun build => build.book.isSuccessful) = true := by decide +kernel
    rw [hwhole] at hbuilt
    exact hbuilt
  obtain ⟨hpartSuccess, hcases⟩ := hsame hsuccess
  exact ⟨hnames, whole, part, hwhole, hpart, hsuccess, hpartSuccess, hcases⟩

end Suite

end Casebook
