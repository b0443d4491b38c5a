import MessageCard.Proofs.CategorySelection
import MessageCard.Proofs.FixtureDiscovery
import MessageCard.Proofs.FixtureRuns
import MessageCard.Proofs.SuiteGrouping

/-! What a run of a suite comes to.  Each selected fixture is run once and adds a line and a count,
or a line and a failure; so the report lists them in order, the counts add up to their number, and
the exit status is the verdict on all of them.
-/

namespace MessageCard

-----------------------------------------------------------------------------------------
-- Tallies
-----------------------------------------------------------------------------------------

namespace Suite

/-- The place and the reason of a failure. -/
def Done.failure? (done : Done) : Option (String × String) :=
  done.result.failure.map fun reason => (done.place, reason)

/-- A tally accounts for fixtures that were run: it has the lines of a report, it counts the
fixtures that passed, and it lists those that failed.
-/
structure Tally.Accounts (tally : Tally) (reported : List String) (seen : List Done) : Prop where
  lines : tally.lines = reported
  passed : tally.passed = seen.countP fun done => done.result.hasPassed
  failures : tally.failures = seen.filterMap Done.failure?

variable {tally : Tally} {reported : List String} {seen : List Done}

/-- A fixture adds its line, and either counts or fails. -/
theorem Tally.add_eq (color : Bool) (tally : Tally) (done : Done)
    : tally.add color done
      = {
          lines := tally.lines ++ [done.line color],
          passed := tally.passed + if done.result.hasPassed then 1 else 0,
          failures := tally.failures ++ done.failure?.toList
        } := by
  rw [add, Done.failure?, FixtureResult.hasPassed]
  cases done.result.failure with
  | none => simp
  | some reason => simp

theorem Tally.Accounts.add (accounts : tally.Accounts reported seen) (color : Bool) (done : Done)
    : (tally.add color done).Accounts (reported ++ [done.line color]) (seen ++ [done]) := by
  rw [Tally.add_eq]
  constructor
  case lines => rw [accounts.lines]
  case passed => rw [accounts.passed, List.countP_append, List.countP_singleton]
  case failures =>
    rw [accounts.failures, List.filterMap_append]
    cases failure : done.failure? with
    | none => rw [List.filterMap_cons_none failure, List.filterMap_nil, Option.toList_none]
    | some reason => rw [List.filterMap_cons_some failure, List.filterMap_nil, Option.toList_some]

theorem Done.failure?_isSome (done : Done) : done.failure?.isSome = !done.result.hasPassed := by
  rw [failure?, Option.isSome_map, FixtureResult.hasPassed, Option.not_isNone]

/-- The passed and the failed fixtures are all that were run. -/
theorem Tally.Accounts.total (accounts : tally.Accounts reported seen)
    : tally.passed + tally.failures.length = seen.length := by
  rw [accounts.passed, accounts.failures, List.length_filterMap_eq_countP]
  simp only [Done.failure?_isSome]
  rw [List.length_eq_countP_add_countP fun done : Done => done.result.hasPassed]
  simp only [Bool.decide_eq_false, Bool.not_eq_true]

/-- Nothing failed exactly when all fixtures passed. -/
theorem Tally.Accounts.failures_eq_nil_iff (accounts : tally.Accounts reported seen)
    : tally.failures = [] ↔ ∀ done ∈ seen, done.result.failure = none := by
  rw [accounts.failures, List.filterMap_eq_nil_iff]
  simp only [Done.failure?, Option.map_eq_none_iff]

-----------------------------------------------------------------------------------------
-- Plans
-----------------------------------------------------------------------------------------

/-- The lines of a report on a plan: below a heading for each category, one for each fixture. -/
def Plan.lines (color : Bool) (plan : Plan) : List String :=
  plan.flatMap fun (category, entries) =>
    "" :: heading color category :: entries.map fun entry => entry.run.line color

/-- The fixtures of a plan after they were run. -/
def Plan.done (plan : Plan) : List Done :=
  plan.flatMap fun (_, entries) => entries.map Entry.run

/-- Fixtures are accounted for one by one, by induction over them. -/
theorem Tally.Accounts.foldl (accounts : tally.Accounts reported seen) (color : Bool)
    (entries : List Entry)
    : (entries.foldl (fun tally entry => tally.add color entry.run) tally).Accounts
        (reported ++ entries.map fun entry => entry.run.line color)
        (seen ++ entries.map Entry.run) := by
  induction entries generalizing tally reported seen with
  | nil =>
      rw [List.map_nil, List.map_nil, List.append_nil, List.append_nil]
      exact accounts
  | cons entry rest ih =>
      have more := ih (accounts.add color entry.run)
      rw [List.append_assoc, List.append_assoc] at more
      exact more

theorem Tally.Accounts.addCategory (accounts : tally.Accounts reported seen) (color : Bool)
    (category : String) (entries : List Entry)
    : (tally.addCategory color category entries).Accounts
        (reported ++ "" :: heading color category :: entries.map fun entry => entry.run.line color)
        (seen ++ entries.map Entry.run) := by
  let headed : Tally := { tally with lines := tally.lines ++ ["", heading color category] }
  have start : headed.Accounts (reported ++ ["", heading color category]) seen := by
    refine ⟨?_, accounts.passed, accounts.failures⟩
    rw [← accounts.lines]
  have run := start.foldl color entries
  rw [List.append_assoc] at run
  exact run

/-- Categories are accounted for one behind the other, by induction over the plan. -/
theorem Tally.Accounts.addPlan (accounts : tally.Accounts reported seen) (color : Bool)
    (plan : Plan)
    : (plan.foldl (fun tally (category, entries) => tally.addCategory color category entries)
        tally).Accounts (reported ++ plan.lines color) (seen ++ plan.done) := by
  induction plan generalizing tally reported seen with
  | nil =>
      rw [Plan.lines, Plan.done, List.flatMap_nil, List.flatMap_nil, List.append_nil,
        List.append_nil]
      exact accounts
  | cons first rest ih =>
      obtain ⟨category, entries⟩ := first
      have more := ih (accounts.addCategory color category entries)
      rw [List.append_assoc, List.append_assoc] at more
      exact more

/-- A run accounts for its plan, as nothing is accounted for at its start. -/
theorem Plan.run_accounts (color : Bool) (plan : Plan)
    : (plan.run color).Accounts (plan.lines color) plan.done := by
  have start : Tally.start.Accounts [] [] := ⟨rfl, rfl, rfl⟩
  exact start.addPlan color plan

end Suite

-----------------------------------------------------------------------------------------
-- Fixtures
-----------------------------------------------------------------------------------------

namespace FixtureFile

/-- The order in which fixtures are run: by categories, and by paths in each. -/
def Before (first second : FixtureFile) : Prop :=
  first.category < second.category
  ∨ first.category = second.category ∧ first.path < second.path

/-- What becomes of a file below a root that is run. -/
def done (root : String) (file : FixtureFile) : Suite.Done where
  place := file.place root
  result := file.result

end FixtureFile

namespace Suite

/-- The files of a suite, one category after the other. -/
def files (suite : Suite) : List FixtureFile :=
  suite.flatMap Prod.snd

/-- The lines of a report on a suite: below a heading for each category, one for each file. -/
def reportLines (color : Bool) (root : String) (suite : Suite) : List String :=
  suite.flatMap fun (category, files) =>
    "" :: heading color category :: files.map fun file => (file.done root).line color

variable {suite : Suite} {tree : FileTree} {file : FixtureFile} {category root : String}
  {color : Bool} {requests : List String}

theorem mem_files_iff
    : file ∈ suite.files ↔ ∃ category group, (category, group) ∈ suite ∧ file ∈ group := by
  rw [files, List.mem_flatMap, Prod.exists]

theorem plan_done (root : String) (suite : Suite)
    : (suite.plan root).done = suite.files.map (FixtureFile.done root) := by
  rw [Plan.done, plan, files, List.flatMap_map, List.map_flatMap]
  congr 1
  funext ⟨category, group⟩
  exact List.map_map

theorem plan_lines (color : Bool) (root : String) (suite : Suite)
    : (suite.plan root).lines color = suite.reportLines color root := by
  rw [Plan.lines, plan, reportLines, List.flatMap_map]
  congr 1
  funext ⟨category, group⟩
  exact congrArg (fun lines => "" :: heading color category :: lines) List.map_map

/-- The tally of a run accounts for the files of its suite. -/
theorem tally_accounts (color : Bool) (root : String) (suite : Suite)
    : ((suite.plan root).run color).Accounts (suite.reportLines color root)
        (suite.files.map (FixtureFile.done root)) := by
  rw [← plan_lines, ← plan_done]
  exact Plan.run_accounts color _

-----------------------------------------------------------------------------------------
-- Suites of folders
-----------------------------------------------------------------------------------------

/-- A group holds the files below the folder that are of its category, in the order of their paths.
-/
theorem group_ofTree (distinct : FileTree.Distinct tree.listing) {group : List FixtureFile}
    (listed : (category, group) ∈ ofTree tree)
    : group ≠ []
      ∧ group.Pairwise (fun first second => first.path < second.path)
      ∧ ∀ file, file ∈ group ↔ FileTree.Discovers tree.listing file ∧ file.category = category := by
  have apart : (tree.fixtureFiles.map FixtureFile.path).Nodup :=
    distinct.paths_nodup
  obtain ⟨filled, ordered, members⟩ := group_ofFiles apart listed
  refine ⟨filled, ordered, fun file => ?_⟩
  rw [members, FileTree.mem_fixtureFiles_iff]

theorem ofTree_sorted (tree : FileTree) : (ofTree tree).Sorted :=
  ofFiles_sorted _

/-- A file below the folder is in the group of its category, and in no other. -/
theorem existsUnique_group (distinct : FileTree.Distinct tree.listing)
    (discovered : FileTree.Discovers tree.listing file)
    : ∃! entry : String × List FixtureFile,
        entry ∈ ofTree tree ∧ file ∈ entry.2 := by
  obtain ⟨group, listed, inside⟩ := exists_group (FileTree.mem_fixtureFiles_iff.mpr discovered)
  refine ⟨(file.category, group), ⟨listed, inside⟩, ?_⟩
  intro ⟨category, another⟩ ⟨elsewhere, again⟩
  obtain ⟨_, rfl⟩ := ((group_ofTree distinct elsewhere).2.2 file).mp again
  rw [(ofTree_sorted _).files_unique elsewhere listed]

/-- The files that are selected are those below the folder whose categories are requested. -/
theorem mem_selected_iff (distinct : FileTree.Distinct tree.listing)
    : file ∈ ((ofTree tree).select requests).files
      ↔ FileTree.Discovers tree.listing file ∧ Selects requests file.category := by
  rw [mem_files_iff]
  constructor
  · intro ⟨category, group, chosen, inside⟩
    obtain ⟨listed, selected⟩ := (mem_select_iff (ofTree_sorted _)).mp chosen
    obtain ⟨discovered, rfl⟩ := ((group_ofTree distinct listed).2.2 file).mp inside
    exact ⟨discovered, selected⟩
  · intro ⟨discovered, selected⟩
    obtain ⟨group, listed, inside⟩ := exists_group (FileTree.mem_fixtureFiles_iff.mpr discovered)
    exact ⟨_, group, (mem_select_iff (ofTree_sorted _)).mpr ⟨listed, selected⟩, inside⟩

/-- The files that are selected stand in order, each of them once. -/
theorem selected_pairwise (distinct : FileTree.Distinct tree.listing) (requests : List String)
    : ((ofTree tree).select requests).files.Pairwise FixtureFile.Before := by
  have group {entry} (chosen : entry ∈ (ofTree tree).select requests) :=
    group_ofTree distinct ((mem_select_iff (ofTree_sorted _)).mp chosen).1
  rw [files, List.pairwise_flatMap]
  constructor
  · intro entry chosen
    obtain ⟨_, ordered, members⟩ := group chosen
    apply ordered.imp_of_mem
    intro first second inside also before
    refine .inr ⟨?_, before⟩
    exact ((members first).mp inside).2.trans ((members second).mp also).2.symm
  · apply (select_sorted (ofTree_sorted _)).imp_of_mem
    intro entry later chosen also before first inside second behind
    left
    rw [(((group chosen).2.2 first).mp inside).2, (((group also).2.2 second).mp behind).2]
    exact before

/-- Something is selected exactly when some file is. -/
theorem select_eq_nil_iff (distinct : FileTree.Distinct tree.listing)
    : (ofTree tree).select requests = []
      ↔ ((ofTree tree).select requests).files = [] := by
  constructor
  · intro none
    rw [none]
    rfl
  · intro none
    rw [List.eq_nil_iff_forall_not_mem]
    intro entry chosen
    have listed := ((mem_select_iff (ofTree_sorted _)).mp chosen).1
    exact (group_ofTree distinct listed).1 (List.flatMap_eq_nil_iff.mp none entry chosen)

-----------------------------------------------------------------------------------------
-- Runs
-----------------------------------------------------------------------------------------

/-- Where nothing is selected, the run fails. -/
theorem runBelow_of_none (none : suite.select requests = [])
    : (suite.runBelow color root requests).exit = 1 := by
  rw [runBelow, none]
  split
  · rfl
  · rfl

/-- Where something is selected, the run prints its warnings and its tally. -/
theorem runBelow_of_selected (sorted : suite.Sorted) (some : suite.select requests ≠ [])
    : let printout := (((suite.select requests).plan root).run color).printout color
      let warnings := (suite.unmatched requests).map suite.warning
      suite.runBelow color root requests
      = { printout with stderr := Text.ofLines warnings ++ printout.stderr } := by
  have filled : suite ≠ [] := by
    intro empty
    obtain ⟨entry, chosen⟩ := List.exists_mem_of_ne_nil _ some
    have listed := ((mem_select_iff sorted).mp chosen).1
    rw [empty] at listed
    cases listed
  intro printout warnings
  rw [runBelow, if_neg (by rwa [List.isEmpty_iff]), if_neg (by rwa [List.isEmpty_iff])]

/-- A run of what stands in a folder is one of the fixtures below it. -/
theorem run_folder (isFolder : tree.IsFolder)
    : run color root (.ok tree) requests = (ofTree tree).runBelow color root requests := by
  cases tree with
  | file content => exact isFolder.elim
  | folder entries => rfl
  | unlisted => rfl

/-- A run succeeds exactly when some files are selected and each of them passes. -/
theorem run_exit_iff (isFolder : tree.IsFolder) (distinct : FileTree.Distinct tree.listing)
    (color : Bool) (path : String) (requests : List String)
    : let files := ((ofTree tree).select requests).files
      (run color path (.ok tree) requests).exit = 0
      ↔ files ≠ [] ∧ ∀ file ∈ files, file.Passes := by
  intro files
  rw [run_folder isFolder]
  by_cases none : (ofTree tree).select requests = []
  · rw [runBelow_of_none none]
    constructor
    · intro failed
      cases failed
    · rintro ⟨chosen, _⟩
      exact (chosen ((select_eq_nil_iff distinct).mp none)).elim
  · rw [runBelow_of_selected (ofTree_sorted _) none]
    have accounts := tally_accounts color path ((ofTree tree).select requests)
    have passed : (∀ done ∈ files.map (FixtureFile.done path), done.result.failure = Option.none)
        ↔ ∀ file ∈ files, file.Passes := by
      rw [List.forall_mem_map]
      simp only [← FixtureFile.hasPassed_iff, FixtureResult.hasPassed, Option.isNone_iff_eq_none]
      rfl
    have chosen : files ≠ [] := fun empty => none ((select_eq_nil_iff distinct).mpr empty)
    rw [← passed, ← accounts.failures_eq_nil_iff, Tally.printout]
    split
    · rename_i zero
      exact ⟨fun _ => ⟨chosen, List.length_eq_zero_iff.mp zero⟩, fun _ => rfl⟩
    · rename_i failed
      constructor
      · intro exit
        cases exit
      · rintro ⟨_, none⟩
        exact (failed (List.length_eq_zero_iff.mpr none)).elim

/-- The files that fail when they are run, each with the reason that is given for it. -/
theorem filterMap_failure (root : String) (files : List FixtureFile)
    : (files.map (FixtureFile.done root)).filterMap Done.failure?
      = (files.filter fun file => !file.result.hasPassed).map fun file =>
          (file.place root, file.reason) := by
  induction files with
  | nil => rfl
  | cons file rest ih =>
      rw [List.map_cons, List.filterMap_cons, List.filter_cons, FixtureResult.hasPassed, ih]
      cases failed : file.result.failure with
      | none => simp [Done.failure?, FixtureFile.done, failed]
      | some reason => simp [Done.failure?, FixtureFile.done, FixtureFile.reason, failed]

/-- The fixtures below a folder are found, selected and run, each of them once.  A suite has the
files below the folder that have the ending, each in the group of its category and in no other, in
the order of their paths; the order in which folders list their entries does not matter.  A run has
the files whose categories are requested, in order.  It succeeds exactly when there are some and
each of them passes.  Its report has one line for each of them, which says whether it passes, and
the reasons why others fail; its counts add up to their number.
-/
theorem run_exact (isFolder : tree.IsFolder) (distinct : FileTree.Distinct tree.listing)
    : let suite := ofTree tree
      suite.Sorted
      ∧ (∀ category group,
          (category, group) ∈ suite
          → group ≠ []
            ∧ group.Pairwise (fun first second => first.path < second.path)
            ∧ ∀ file,
                file ∈ group
                ↔ FileTree.Discovers tree.listing file ∧ file.category = category)
      ∧ (∀ file,
          FileTree.Discovers tree.listing file → ∃! entry, entry ∈ suite ∧ file ∈ entry.2)
      ∧ (∀ other : FileTree,
          FileTree.Relisted tree.listing other.listing → ofTree other = suite)
      ∧ (∀ file : FixtureFile, file.result.hasPassed = true ↔ file.Passes)
      ∧ ∀ color path requests,
          let selected := suite.select requests
          let passed := selected.files.countP fun file => file.result.hasPassed
          let failing := selected.files.filter fun file => !file.result.hasPassed
          let printout := run color path (.ok tree) requests
          selected.files.Pairwise FixtureFile.Before
          ∧ (∀ file,
              file ∈ selected.files
              ↔ FileTree.Discovers tree.listing file ∧ Selects requests file.category)
          ∧ (printout.exit = 0 ↔ selected.files ≠ [] ∧ ∀ file ∈ selected.files, file.Passes)
          ∧ passed + failing.length = selected.files.length
          ∧ (selected.files ≠ []
            → ∃ reason : FixtureFile → String,
                (∀ file ∈ failing, file.FailsFor (reason file))
                ∧ printout.stderr
                  = Text.ofLines ((suite.unmatched requests).map suite.warning)
                    ++ Text.ofLines
                      (selected.reportLines color path
                        ++ failuresLines
                          (failing.map fun file => (file.place path, reason file))
                        ++ ["", countLine color passed failing.length])) := by
  intro suite
  refine ⟨ofTree_sorted _, ?groups, ?unique, ?relisted, fun _ => FixtureFile.hasPassed_iff, ?runs⟩
  case groups =>
    intro category group listed
    exact group_ofTree distinct listed
  case unique =>
    intro file discovered
    exact existsUnique_group distinct discovered
  case relisted =>
    intro other relisted
    exact (ofFiles_eq_of_perm distinct.paths_nodup relisted.fixturesIn_perm).symm
  case runs =>
    intro color path requests selected passed failing printout
    have accounts := tally_accounts color path selected
    have counted : passed = ((selected.plan path).run color).passed := by
      rw [accounts.passed, List.countP_map]
      rfl
    have failed
        : ((selected.plan path).run color).failures
          = failing.map fun file => (file.place path, file.reason) := by
      rw [accounts.failures, filterMap_failure]
    refine ⟨selected_pairwise distinct requests, ?members, ?exit, ?counts, ?report⟩
    case members =>
      intro file
      exact mem_selected_iff distinct
    case exit => exact run_exit_iff isFolder distinct color path requests
    case counts =>
      have total := accounts.total
      rwa [← counted, failed, List.length_map, List.length_map] at total
    case report =>
      intro chosen
      have some : suite.select requests ≠ [] :=
        fun none => chosen ((select_eq_nil_iff distinct).mp none)
      refine ⟨FixtureFile.reason, ?_, ?_⟩
      · intro file member
        obtain ⟨_, fails⟩ := List.mem_filter.mp member
        exact FixtureFile.failsFor_reason (by simpa using fails)
      · rw [show printout = _ from run_folder isFolder, runBelow_of_selected (ofTree_sorted _) some,
          Tally.printout, accounts.lines, ← counted, failed, List.length_map]

/-- The only fixture in a folder passes; what stands beside it is not run, nor is a file of which
the name is no text.
-/
theorem onlyFixture_run
    : let settings := "---\nexpect_warnings = []\n---\n"
      let content := .ok (settings ++ "\x7b\"elements\": [\x7b\"tag\": \"hr\"\x7d]\x7d\n")
      let file : FixtureFile := { folders := ["elements"], name := "hr.test.json", content }
      let noText : FileName := { bytes := 0xFF :: utf8 ".test.json".toList }
      let tree : FileTree :=
        .folder [
          ("notes.md", .file (.ok "")),
          ("elements", .folder [("hr.test.json", .file content), (noText, .file content)]),
          ("closed", .unlisted)
        ]
      tree.IsFolder
      ∧ FileTree.Distinct tree.listing
      ∧ file ∈ ((ofTree tree).select ["elements/"]).files
      ∧ (run false "fixtures" (.ok tree) ["elements/"]).exit = 0 := by
  intro settings content file noText tree
  have distinct : FileTree.Distinct tree.listing := by
    have inside : FileTree.Distinct [("hr.test.json", .file content), (noText, .file content)] :=
      .file (by decide +kernel) (.file List.not_mem_nil .nil)
    exact .file (by decide +kernel)
      (.folder (by decide +kernel) inside (.unlisted List.not_mem_nil .nil))
  have passes : file.Passes := by
    rw [← FixtureFile.hasPassed_iff]
    decide +kernel
  have only (other : FixtureFile) (discovered : FileTree.Discovers tree.listing other)
      : other = file := by
    obtain ⟨leads, text, same, ending⟩ := discovered
    have shown := FileName.shown_of_text same
    rcases FileTree.leads_cons.mp leads with beside | leads
    · obtain ⟨_, named, _⟩ := FileTree.leads_file.mp beside
      rw [← shown, named] at ending
      exact absurd ending (by decide +kernel)
    · rcases FileTree.leads_cons.mp leads with inside | unlisted
      · obtain ⟨more, below, inner⟩ := FileTree.leads_folder.mp inside
        rcases FileTree.leads_cons.mp inner with first | second
        · obtain ⟨rfl, named, held⟩ := FileTree.leads_file.mp first
          cases other
          rw [FixtureFile.mk.injEq]
          exact ⟨below, named, held⟩
        · obtain ⟨_, named, _⟩ := FileTree.leads_file.mp second
          rw [← shown, named] at same
          exact absurd same (by decide +kernel)
      · exact (FileTree.not_leads_unlisted unlisted).elim
  have folder : tree.IsFolder := trivial
  obtain ⟨_, _, _, _, _, runs⟩ := run_exact folder distinct
  obtain ⟨_, members, exit, _, _⟩ := runs false "fixtures" ["elements/"]
  have chosen : file ∈ ((ofTree tree).select ["elements/"]).files := by
    refine (members file).mpr ⟨⟨?_, "hr.test.json", rfl, by decide +kernel⟩, .inr ⟨"elements/", ?_⟩⟩
    · apply FileTree.leads_cons.mpr (.inr _)
      apply FileTree.leads_cons.mpr (.inl _)
      exact FileTree.leads_folder.mpr ⟨[], rfl, .file List.mem_cons_self⟩
    · exact ⟨List.mem_singleton_self _, by decide +kernel⟩
  refine ⟨folder, distinct, chosen, exit.mpr ⟨List.ne_nil_of_mem chosen, ?_⟩⟩
  intro other listed
  rw [only other ((members other).mp listed).1]
  exact passes

end Suite

end MessageCard
