import Casebook.Program
import Casebook.Proofs.Case.Save
import Casebook.Proofs.Suite

/-! # Runs of the program

    What a run leaves behind, on the disk and in its output, and the exit code
    that tells which (`Program.run_outcome`).

    There are three kinds of runs.  A misdirected one (`Misdirected`) knows of no
    configuration or no group to build, a building one (`Builds`) has both, and
    the others print stubs.  A building run decides everything before it writes:
    what becomes of it depends on the reports on all submissions together
    (`Suite.reports`).
-/

namespace Casebook

variable {ρ : Type}

/-! ## What is handed in and what becomes of it -/

/-- What the groups asked for hand in. -/
def Suite.submissions (suite : Suite ρ) (only : List Text) : List (Submission ρ) :=
  (suite.selected only).flatMap Group.submissions

/-- The reports on all that the groups asked for hand in, in order. -/
def Suite.reports (suite : Suite ρ) (config : Configuration) (only : List Text) :
    List (Report ρ) :=
  ((Book.empty config).submitAll (suite.submissions only)).2

/-- The cases that are committed, in order. -/
def Suite.committed (suite : Suite ρ) (config : Configuration) (only : List Text) : List Case :=
  (suite.reports config only).flatMap Report.cases

/-- The submissions that are refused, in order. -/
def Suite.refusals (suite : Suite ρ) (config : Configuration) (only : List Text) : List Failure :=
  (List.zipWith (fun s report => report.failures s.id) (suite.submissions only)
    (suite.reports config only)).flatten

/-- Was the submission refused? -/
def Report.Refused (report : Report ρ) : Prop :=
  ∃ fault, report.outcome = .error fault

theorem Report.failures_eq_nil_iff {report : Report ρ} (id : Text) :
    report.failures id = [] ↔ ¬ report.Refused := by
  unfold Report.failures Report.Refused
  cases report.outcome with
  | ok c => simp
  | error fault => simp

/-- Among as many reports as submissions none records a failure if none is a
    refusal. -/
theorem flatten_failures_eq_nil_iff {history : List (Submission ρ)} {reports : List (Report ρ)}
    (h : reports.length = history.length) :
    (List.zipWith (fun s report => report.failures s.id) history reports).flatten = [] ↔
      ∀ report ∈ reports, ¬ report.Refused := by
  induction history generalizing reports with
  | nil =>
    obtain rfl := List.eq_nil_of_length_eq_zero h
    simp
  | cons s rest ih =>
    cases reports with
    | nil => cases h
    | cons report later =>
      rw [List.zipWith_cons_cons, List.flatten_cons, List.append_eq_nil_iff,
        Report.failures_eq_nil_iff, ih (Nat.succ.inj h), List.forall_mem_cons]

namespace Suite

variable {suite : Suite ρ} {config : Configuration} {only : List Text}

theorem refusals_eq_nil_iff :
    suite.refusals config only = [] ↔ ∀ report ∈ suite.reports config only, ¬ report.Refused :=
  flatten_failures_eq_nil_iff (Book.length_submitAll _ _)

theorem refusals_ne_nil_iff :
    suite.refusals config only ≠ [] ↔ ∃ report ∈ suite.reports config only, report.Refused := by
  rw [ne_eq, refusals_eq_nil_iff]
  simp only [not_forall, not_not, exists_prop]

/-- **What a build makes.**  Its book holds the cases and the failures that the
    reports tell of. -/
theorem exists_build (suite : Suite ρ) (config : Configuration)
    (honly : ∀ name ∈ only, name ∈ suite.names) :
    ∃ build : Build, suite.build config only = .ok build ∧
      build.book.cases = suite.committed config only ∧
      build.book.failures = suite.refusals config only := by
  refine ⟨_, build_eq_ok honly, ?_⟩
  rw [Build.book_foldl_addGroup]
  obtain ⟨hcases, hfailures⟩ := Book.entries_submitAll (Book.empty config) (suite.submissions only)
  exact ⟨hcases, hfailures⟩

end Suite

namespace Program

open Files (Disk Path)

/-! ## Kinds of runs -/

/-- The configuration cannot be loaded, or a group is to be built that the suite
    does not have. -/
def Misdirected (disk : Disk) (commandLine : CommandLine) (suite : Suite ρ) : Prop :=
  (∃ fault, Configuration.load disk commandLine.config = .error fault) ∨
    ∃ groups out, commandLine.command = .build groups out ∧
      ∃ name ∈ groups, name ∉ suite.names

/-- The configuration is loaded, and groups are to be built that the suite
    has. -/
structure Builds (disk : Disk) (commandLine : CommandLine) (suite : Suite ρ)
    (config : Configuration) (groups : List Text) (out : Path) : Prop where
  loaded : ∃ notice, Configuration.load disk commandLine.config = .ok (config, notice)
  command : commandLine.command = .build groups out
  known : ∀ name ∈ groups, name ∈ suite.names

variable {disk : Disk} {commandLine : CommandLine} {suite : Suite ρ} {config : Configuration}
  {groups : List Text} {out : Path} {ids : Nat → Text}

/-- A run is misdirected, or it builds, or it prints stubs. -/
theorem kind_cases (disk : Disk) (commandLine : CommandLine) (suite : Suite ρ) :
    Misdirected disk commandLine suite ∨
      (∃ config groups out, Builds disk commandLine suite config groups out) ∨
      ∃ config notice count, Configuration.load disk commandLine.config = .ok (config, notice) ∧
        commandLine.command = .new count := by
  cases hload : Configuration.load disk commandLine.config with
  | error fault => exact Or.inl (Or.inl ⟨fault, hload⟩)
  | ok loaded =>
    cases hcommand : commandLine.command with
    | new count => exact Or.inr (Or.inr ⟨loaded.1, loaded.2, count, rfl, rfl⟩)
    | build groups out =>
      by_cases hknown : ∀ name ∈ groups, name ∈ suite.names
      · exact Or.inr (Or.inl ⟨loaded.1, groups, out, ⟨loaded.2, hload⟩, hcommand, hknown⟩)
      · simp only [not_forall] at hknown
        obtain ⟨name, hmem, hname⟩ := hknown
        exact Or.inl (Or.inr ⟨groups, out, hcommand, name, hmem, hname⟩)

theorem run_of_misdirected (ids : Nat → Text)
    (h : Misdirected disk commandLine suite) :
    ∃ reason, run disk commandLine suite ids = (disk, .failed reason) := by
  unfold run plan
  cases hload : Configuration.load disk commandLine.config with
  | error fault => exact ⟨_, rfl⟩
  | ok loaded =>
    rcases h with ⟨fault, hfault⟩ | ⟨groups, out, hcommand, name, hmem, hname⟩
    · rw [hfault] at hload
      cases hload
    · obtain ⟨fault, hfault⟩ : ∃ fault, suite.build loaded.1 groups = .error fault :=
        ⟨_, Suite.build_eq_error ⟨name, hmem, hname⟩⟩
      refine ⟨fault.fullMessage, ?_⟩
      simp only [Except.map, hcommand, hfault, planBuild]

/-- **A building run decides first.**  Nothing is written unless all submissions
    are committed. -/
theorem run_of_builds (ids : Nat → Text)
    (h : Builds disk commandLine suite config groups out) :
    run disk commandLine suite ids =
      if (suite.refusals config groups).isEmpty then
        let saved := saveCases disk out (suite.committed config groups)
        (saved.disk, .saved out saved.result)
      else (disk, .refused (suite.refusals config groups)) := by
  obtain ⟨notice, hload⟩ := h.loaded
  obtain ⟨build, hbuild, hcases, hfailures⟩ := suite.exists_build config h.known
  have hplan : plan (.ok config) commandLine suite ids =
      if (suite.refusals config groups).isEmpty then .save out (suite.committed config groups)
      else .finish (.refused (suite.refusals config groups)) := by
    simp only [plan, h.command, planBuild, hbuild, Book.isSuccessful, hcases, hfailures]
  unfold run
  simp only [hload, Except.map]
  by_cases hclean : (suite.refusals config groups).isEmpty = true
  · rw [hplan, if_pos hclean, if_pos hclean]
  · rw [hplan, if_neg hclean, if_neg hclean]

/-- A building run that ends with saving. -/
theorem run_of_clean_build (ids : Nat → Text)
    (h : Builds disk commandLine suite config groups out)
    (hclean : suite.refusals config groups = []) :
    run disk commandLine suite ids =
      ((saveCases disk out (suite.committed config groups)).disk,
        .saved out (saveCases disk out (suite.committed config groups)).result) := by
  rw [run_of_builds ids h, if_pos (List.isEmpty_iff.2 hclean)]

/-- A building run that ends with a refusal. -/
theorem run_of_refused_build (ids : Nat → Text)
    (h : Builds disk commandLine suite config groups out)
    (hrefused : suite.refusals config groups ≠ []) :
    run disk commandLine suite ids = (disk, .refused (suite.refusals config groups)) := by
  rw [run_of_builds ids h, if_neg (fun hclean => hrefused (List.isEmpty_iff.1 hclean))]

theorem run_of_new (suite : Suite ρ) (ids : Nat → Text) {notice : Notice} {count : Nat}
    (hload : Configuration.load disk commandLine.config = .ok (config, notice))
    (hcommand : commandLine.command = .new count) :
    run disk commandLine suite ids =
      (disk,
        { exitCode := 0, stdout := stubsText (Stub.several ids count config.firstSiteTag) }) := by
  unfold run plan
  simp only [hload, Except.map, hcommand]

/-! ## Endings -/

theorem exitCode_saved_ne_one (out : Path) (result : Except Fault (List Path)) :
    (Ending.saved out result).exitCode ≠ 1 := by
  cases result with
  | ok written => exact Nat.zero_ne_one
  | error fault =>
    show 2 ≠ 1
    decide

/-- Saving that ends well prints the paths of the cases. -/
theorem saved_of_ok {cases : List Case} {paths : List Path}
    (h : (saveCases disk out cases).result = .ok paths) :
    (Ending.saved out (saveCases disk out cases).result).exitCode = 0 ∧
      (Ending.saved out (saveCases disk out cases).result).stdout =
        cases.flatMap fun c => Path.join out (c.id ++ ".rfml".toList) ++ ['\n'] := by
  obtain ⟨-, hpaths⟩ := holds_saveCases h
  rw [h, hpaths]
  refine ⟨rfl, ?_⟩
  show (cases.map (Case.savePath out)).flatMap line = _
  rw [List.flatMap_map]
  rfl

theorem saved_of_error {cases : List Case} {fault : Fault}
    (h : (saveCases disk out cases).result = .error fault) :
    (Ending.saved out (saveCases disk out cases).result).exitCode = 2 ∧
      (Ending.saved out (saveCases disk out cases).result).stdout = [] := by
  rw [h]
  exact ⟨rfl, rfl⟩

/-- Exactly the refusals of a building run make an exit code of one. -/
theorem exitCode_eq_one_iff :
    (run disk commandLine suite ids).2.exitCode = 1 ↔ ∃ config groups out,
      Builds disk commandLine suite config groups out ∧ suite.refusals config groups ≠ [] := by
  constructor
  · intro hcode
    rcases kind_cases disk commandLine suite with h | ⟨config, groups, out, h⟩ |
      ⟨config, notice, count, hload, hcommand⟩
    · obtain ⟨reason, hrun⟩ := run_of_misdirected ids h
      rw [hrun] at hcode
      cases hcode
    · refine ⟨config, groups, out, h, ?_⟩
      intro hclean
      rw [run_of_clean_build ids h hclean] at hcode
      exact exitCode_saved_ne_one out _ hcode
    · rw [run_of_new suite ids hload hcommand] at hcode
      cases hcode
  · rintro ⟨config, groups, out, h, hrefused⟩
    rw [run_of_refused_build ids h hrefused]
    rfl

/-! ## The main result -/

/-- **A run leaves files only if everything went well until it saved.**

    * A misdirected run ends with exit code 2, prints nothing and leaves the disk
      as it is.
    * So does a run that builds when a submission is refused, but with exit
      code 1.  It reports each refusal in order, and then that nothing was built.
    * A run that builds without refusals saves all cases.  It prints their paths in
      order and ends with exit code 0, unless saving fails: then it prints nothing
      and ends with exit code 2.
    * A run that prints stubs leaves the disk as it is, and no run but those with
      refusals ends with exit code 1. -/
theorem run_outcome (disk : Disk) (commandLine : CommandLine) (suite : Suite ρ)
    (ids : Nat → Text) :
    let after := (run disk commandLine suite ids).1
    let ending := (run disk commandLine suite ids).2
    (Misdirected disk commandLine suite →
        ending.exitCode = 2 ∧ ending.stdout = [] ∧ after = disk) ∧
      (∀ config groups out, Builds disk commandLine suite config groups out →
        ((∃ report ∈ suite.reports config groups, report.Refused) →
          ending.exitCode = 1 ∧ ending.stdout = [] ∧ after = disk ∧
            ending.stderr =
              (suite.refusals config groups).flatMap
                (fun failure => failure.id ++ ": ".toList ++ failure.fault.message ++ ['\n']) ++
              "no tests were built because errors were encountered.\n".toList) ∧
        ((∀ report ∈ suite.reports config groups, ¬ report.Refused) →
          let saved := saveCases disk out (suite.committed config groups)
          after = saved.disk ∧
            (∀ paths, saved.result = .ok paths →
              ending.exitCode = 0 ∧
                ending.stdout = (suite.committed config groups).flatMap fun c =>
                  Path.join out (c.id ++ ".rfml".toList) ++ ['\n']) ∧
            (∀ fault, saved.result = .error fault →
              ending.exitCode = 2 ∧ ending.stdout = []))) ∧
      (∀ count, commandLine.command = .new count → after = disk) ∧
      (ending.exitCode = 1 ↔ ∃ config groups out,
        Builds disk commandLine suite config groups out ∧
          ∃ report ∈ suite.reports config groups, report.Refused) := by
  dsimp only
  refine ⟨?misdirected, ?builds, ?new, ?exitCode⟩
  case misdirected =>
    intro h
    obtain ⟨reason, hrun⟩ := run_of_misdirected ids h
    rw [hrun]
    exact ⟨rfl, rfl, rfl⟩
  case builds =>
    intro config groups out h
    refine ⟨?_, ?_⟩
    · intro hsome
      rw [run_of_refused_build ids h (Suite.refusals_ne_nil_iff.2 hsome)]
      exact ⟨rfl, rfl, rfl, rfl⟩
    · intro hnone
      rw [run_of_clean_build ids h (Suite.refusals_eq_nil_iff.2 hnone)]
      exact ⟨rfl, fun _ h => saved_of_ok h, fun _ h => saved_of_error h⟩
  case new =>
    intro count hcommand
    cases hload : Configuration.load disk commandLine.config with
    | error fault =>
      have hmisdirected : Misdirected disk commandLine suite := Or.inl ⟨fault, hload⟩
      obtain ⟨reason, hrun⟩ := run_of_misdirected ids hmisdirected
      rw [hrun]
    | ok loaded => rw [run_of_new suite ids hload hcommand]
  case exitCode =>
    rw [exitCode_eq_one_iff]
    simp only [Suite.refusals_ne_nil_iff]

/-- A suite with a good submission and one that asks nothing. -/
def halfSuite : Suite Empty where
  groups := [
    { name := "good".toList
      submissions := [{ id := "one".toList, script := .step "Look.\nSee it?".toList }] },
    { name := "bad".toList
      submissions := [
        { id := "two".toList
          metadata := { title := some "two".toList }
          script := .step "Look.\nSee it.".toList }] }]

theorem run_outcome_half :
    let commandLine (groups : List Text) : CommandLine :=
      { config := Configuration.defaultFile, command := .build groups "out".toList }
    let ids (_ : Nat) : Text := []
    Builds {} (commandLine []) halfSuite {} [] "out".toList ∧
      (run {} (commandLine []) halfSuite ids).1 = {} ∧
      (run {} (commandLine []) halfSuite ids).2.stderr =
        ("two: question does not end with a question mark: See it.\n" ++
          "no tests were built because errors were encountered.\n").toList ∧
      (run {} (commandLine ["good".toList]) halfSuite ids).2.stdout = "out/one.rfml\n".toList := by
  intro commandLine ids
  have hall : Builds {} (commandLine []) halfSuite {} [] "out".toList :=
    ⟨⟨.usingDefaults Configuration.defaultFile, by decide +kernel⟩, rfl, by decide⟩
  have hgood : Builds {} (commandLine ["good".toList]) halfSuite {} ["good".toList] "out".toList :=
    ⟨⟨.usingDefaults Configuration.defaultFile, by decide +kernel⟩, rfl, by decide⟩
  have hrefusals : halfSuite.refusals {} [] =
      [⟨"two".toList, .malformedQuestion "See it.".toList⟩] := by decide +kernel
  have hsome : halfSuite.refusals {} [] ≠ [] := by
    rw [hrefusals]
    exact List.cons_ne_nil _ _
  have hclean : halfSuite.refusals {} ["good".toList] = [] := by decide +kernel
  have hsaved : (saveCases {} "out".toList (halfSuite.committed {} ["good".toList])).result =
      .ok ["out/one.rfml".toList] := by decide +kernel
  have hcommitted : (halfSuite.committed {} ["good".toList]).flatMap
      (fun c => Path.join "out".toList (c.id ++ ".rfml".toList) ++ ['\n']) =
        "out/one.rfml\n".toList := by decide +kernel
  obtain ⟨-, hbuilds, -, -⟩ := run_outcome {} (commandLine []) halfSuite ids
  obtain ⟨-, -, hafter, hstderr⟩ :=
    (hbuilds {} [] "out".toList hall).1 (Suite.refusals_ne_nil_iff.1 hsome)
  obtain ⟨-, hbuilds, -, -⟩ := run_outcome {} (commandLine ["good".toList]) halfSuite ids
  obtain ⟨-, hok, -⟩ := (hbuilds {} ["good".toList] "out".toList hgood).2
    (Suite.refusals_eq_nil_iff.1 hclean)
  refine ⟨hall, hafter, ?_, ?_⟩
  · rw [hstderr, hrefusals]
    decide +kernel
  · rw [(hok _ hsaved).2, hcommitted]

end Program

end Casebook
