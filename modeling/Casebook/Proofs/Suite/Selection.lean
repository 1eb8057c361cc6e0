import Casebook.Case.Markup
import Casebook.Proofs.Suite

/-! # Selecting groups

    The names that a build is asked for select groups of the suite.  What counts
    is which names are among them, not their order and not how often they are
    repeated, and the order of the suite decides the order of the build
    (`Suite.build_selection`).

    A name that no group has is a fault.  It is found before any group runs, so
    what the groups hold makes no difference to it.
-/

namespace Casebook

variable {ρ : Type}

namespace Suite

variable {suite : Suite ρ} {config : Configuration} {only other : List Text}

/-- A group is selected once for all mentions of its name, and every group is
    when no name is mentioned. -/
theorem selected_eq_filter_names :
    suite.selected only = suite.groups.filter fun group => only = [] ∨ group.name ∈ only := by
  rw [selected_eq_filter]
  apply List.filter_congr
  intro group _
  rw [Group.isSelected, Bool.decide_or, Bool.eq_iff_iff]
  simp

/-- **Selections are compared by the names in them.** -/
theorem selected_congr (h : ∀ name, name ∈ only ↔ name ∈ other) :
    suite.selected only = suite.selected other := by
  have hempty : only = [] ↔ other = [] := by
    rw [List.eq_nil_iff_forall_not_mem, List.eq_nil_iff_forall_not_mem]
    exact forall_congr' fun name => not_congr (h name)
  rw [selected_eq_filter_names, selected_eq_filter_names]
  apply List.filter_congr
  intro group _
  rw [decide_eq_decide, hempty, h group.name]

/-- Naming every group is naming none. -/
theorem selected_of_all (h : ∀ name ∈ suite.names, name ∈ only) :
    suite.selected only = suite.selected [] := by
  have hall : suite.selected [] = suite.groups := rfl
  rw [hall, selected_eq_filter_names, List.filter_eq_self]
  intro group hgroup
  exact decide_eq_true (Or.inr (h group.name (List.mem_map_of_mem hgroup)))

/-- **A selection is a set of names.**

    * If a name is unknown, the build is a fault that lists the unknown names in
      their order, with repetitions.  Every suite whose groups have the same names
      gives this fault, whatever is in the groups, so none of them runs.
    * Otherwise there is a book: an empty one that took the submissions of all
      groups selected, each group once and in the order of the suite.  If nothing
      is asked for, all groups are selected.
    * Known selections of the same names give the same build, and naming all
      groups gives the build of naming none. -/
theorem build_selection (suite : Suite ρ) (config : Configuration) (only : List Text) :
    let fault : Fault := .unknownGroups (only.filter fun name => name ∉ suite.names)
    ((∃ name ∈ only, name ∉ suite.names) →
      fault.message = "Invalid configuration: unknown test group: ".toList ++
          Text.joinWith ", ".toList (only.filter fun name => name ∉ suite.names) ∧
        suite.build config only = .error fault ∧
        ∀ (σ : Type) (like : Suite σ), like.names = suite.names →
          like.build config only = .error fault) ∧
      ((∀ name ∈ only, name ∈ suite.names) →
        (∃ build : Build, suite.build config only = .ok build ∧
          build.book = ((Book.empty config).submitAll
            ((suite.groups.filter fun group => only = [] ∨ group.name ∈ only).flatMap
              Group.submissions)).1) ∧
        (∀ other, (∀ name, name ∈ only ↔ name ∈ other) →
          suite.build config only = suite.build config other) ∧
        ((∀ name ∈ suite.names, name ∈ only) →
          suite.build config only = suite.build config [])) := by
  intro fault
  constructor
  · intro hunknown
    refine ⟨rfl, build_eq_error hunknown, ?_⟩
    -- Only the names of the groups were used, so the other suite fails alike.
    intro σ like hnames
    have hfault : like.build config only =
        .error (.unknownGroups (only.filter fun name => name ∉ like.names)) :=
      build_eq_error (hnames.symm ▸ hunknown)
    rwa [hnames] at hfault
  · intro honly
    refine ⟨?_, ?_, ?_⟩
    · refine ⟨_, build_eq_ok honly, ?_⟩
      rw [Build.book_foldl_addGroup, selected_eq_filter_names]
    · intro other hsame
      have hother : ∀ name ∈ other, name ∈ suite.names := by
        intro name hmem
        exact honly name ((hsame name).2 hmem)
      rw [build_eq_ok honly, build_eq_ok hother, selected_congr hsame]
    · intro hall
      rw [build_eq_ok honly, build_eq_ok (List.forall_mem_nil _), selected_of_all hall]

/-- A suite of three groups, two of which have the same name and share a title. -/
def repeatedSuite : Suite Empty where
  groups := [
    { name := "account".toList
      submissions := [
        { id := "sign-in".toList, script := .step "Sign in.\nAre you in?".toList }] },
    { name := "news".toList
      submissions := [
        { id := "feed".toList
          metadata := { title := some "feed".toList }
          script := .step "Open the feed.\nIs it there?".toList }] },
    { name := "account".toList
      submissions := [
        { id := "sign-out".toList, script := .step "Sign out.\nAre you out?".toList }] }]

theorem build_selection_repeated :
    let asked := ["news".toList, "account".toList, "news".toList]
    let misspelt := ["nwes".toList, "news".toList, "account ".toList, "nwes".toList]
    (∀ name ∈ asked, name ∈ repeatedSuite.names) ∧
      repeatedSuite.build {} asked = repeatedSuite.build {} ["account".toList, "news".toList] ∧
      repeatedSuite.build {} asked = repeatedSuite.build {} [] ∧
      (∃ build : Build, repeatedSuite.build {} asked = .ok build ∧
        build.book.cases.map Case.fileName = ["sign-in.rfml".toList, "feed.rfml".toList] ∧
        build.book.failures = [⟨"sign-out".toList, .duplicateTitle "unnamed test".toList⟩]) ∧
      (∃ name ∈ misspelt, name ∉ repeatedSuite.names) ∧
      repeatedSuite.build {} misspelt =
        .error (.unknownGroups ["nwes".toList, "account ".toList, "nwes".toList]) := by
  intro asked misspelt
  have hknown : ∀ name ∈ asked, name ∈ repeatedSuite.names := by decide
  have hunknown : ∃ name ∈ misspelt, name ∉ repeatedSuite.names := by decide
  obtain ⟨⟨build, hbuild, hbook⟩, hset, hall⟩ := (build_selection repeatedSuite {} asked).2 hknown
  obtain ⟨-, hfault, -⟩ := (build_selection repeatedSuite {} misspelt).1 hunknown
  refine ⟨hknown, hset _ ?_, hall (by decide), ⟨build, hbuild, ?_, ?_⟩, hunknown, hfault⟩
  · intro name
    simp only [asked, List.mem_cons, List.not_mem_nil, or_false]
    tauto
  · rw [hbook]
    decide +kernel
  · rw [hbook]
    decide +kernel

end Suite

end Casebook
