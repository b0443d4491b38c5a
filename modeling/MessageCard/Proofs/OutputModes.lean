import MessageCard.Proofs.LoadedOptions
import MessageCard.Proofs.SpelledCommands

/-! The form of output has no part in the verdict.  Whether a card compiles, and what is reported
about it, depends on its text and on the options.  The form of output decides what is printed of
a tree that is there, and nothing else.
-/

namespace MessageCard

/-- The reports of a compilation: its warnings, or what it failed with. -/
def reportsOf : Except Diagnostic Compilation → List Diagnostic
  | .ok compilation => compilation.warnings
  | .error failure => [failure]

namespace CompileCommand

variable {command : CompileCommand} {files : Files} {source : String}
  {outcome : Except Diagnostic Compilation}

/-- The options load, the file is readable, and the compilation of its text has this outcome. -/
def Reaches (command : CompileCommand) (files : Files) (source : String)
    (outcome : Except Diagnostic Compilation) : Prop :=
  ∃ options, command.Loads files options
    ∧ files.text command.file = .ok source
    ∧ compile source options 0 = outcome

/-- What is said of a card that is only checked and is accepted. -/
def acceptance (command : CompileCommand) : String :=
  "ok: " ++ command.file ++ " compiled successfully\n"

-----------------------------------------------------------------------------------------
-- Runs of a command
-----------------------------------------------------------------------------------------

/-- How far a command comes before its tree is printed: to the text of the card with what it is
compiled to, or to a text about what failed.
-/
def verdict (command : CompileCommand) (files : Files) : Except String (String × Compilation) :=
  match command.options files with
  | .error error => .error ("error: " ++ error.message ++ "\n")
  | .ok options =>
      match files.text command.file with
      | .error error => .error ("error: " ++ unreadable command.file error ++ "\n")
      | .ok source =>
          match compile source options 0 with
          | .error failure => .error (renderAll command.file source [failure])
          | .ok compilation => .ok (source, compilation)

/-- What a command reports, whatever it prints. -/
def said (command : CompileCommand) (files : Files) : String :=
  match command.verdict files with
  | .error said => said
  | .ok (source, compilation) => renderAll command.file source compilation.warnings

/-- The form of output has no part in the verdict. -/
theorem verdict_withOutput (format : Format) (isCheck : Bool)
    : (command.withOutput format isCheck).verdict files = command.verdict files :=
  rfl

theorem said_withOutput (format : Format) (isCheck : Bool)
    : (command.withOutput format isCheck).said files = command.said files :=
  rfl

theorem verdict_of_reaches (reaches : command.Reaches files source outcome)
    : command.verdict files
      = (outcome.map (Prod.mk source)).mapError fun failure =>
        renderAll command.file source [failure] := by
  obtain ⟨options, loads, readable, compiled⟩ := reaches
  simp only [verdict, options_eq_ok_iff.mpr loads, readable, compiled]
  cases outcome <;> rfl

theorem said_of_reaches (reaches : command.Reaches files source outcome)
    : command.said files = renderAll command.file source (reportsOf outcome) := by
  rw [said, verdict_of_reaches reaches]
  cases outcome <;> rfl

/-- A verdict with a tree comes of a compilation that is reached. -/
theorem verdict_eq_ok_iff {compilation : Compilation}
    : command.verdict files = .ok (source, compilation)
      ↔ command.Reaches files source (.ok compilation) := by
  constructor
  · intro compiles
    rw [verdict] at compiles
    split at compiles
    · cases compiles
    · rename_i options loaded
      split at compiles
      · cases compiles
      · rename_i source' readable
        split at compiles
        · cases compiles
        · rename_i compiled
          cases compiles
          exact ⟨options, options_eq_ok_iff.mp loaded, readable, compiled⟩
  · exact fun reaches => verdict_of_reaches reaches

/-- A run prints the verdict: cases on how far the command comes. -/
theorem run_eq (command : CompileCommand) (files : Files)
    : command.run files
      = match command.verdict files with
        | .error said => { exit := 1, stderr := said }
        | .ok (source, compilation) => command.printSuccess source compilation := by
  rw [run, verdict]
  cases command.options files with
  | error error => rfl
  | ok options =>
      cases files.text command.file with
      | error error => rfl
      | ok source => cases compiled : compile source options 0 <;> simp only [compiled]

/-- The status is zero exactly when a compilation is reached that succeeds. -/
theorem run_exit_iff
    : (command.run files).exit = 0
      ↔ ∃ source compilation, command.Reaches files source (.ok compilation) := by
  simp only [← verdict_eq_ok_iff]
  rw [run_eq]
  cases command.verdict files with
  | error said => exact iff_of_false Nat.one_ne_zero nofun
  | ok reached =>
      rcases reached with ⟨source, compilation⟩
      refine iff_of_true ?_ ⟨source, compilation, rfl⟩
      dsimp only
      rw [printSuccess]
      split <;> rfl

/-- The status depends on the verdict alone. -/
theorem run_exit_withOutput (format : Format) (isCheck : Bool)
    : ((command.withOutput format isCheck).run files).exit = (command.run files).exit := by
  rw [run_eq, run_eq, verdict_withOutput]
  cases command.verdict files with
  | error said => rfl
  | ok reached =>
      rcases reached with ⟨source, compilation⟩
      dsimp only
      simp only [printSuccess]
      split <;> split <;> rfl

/-- Behind the reports stands at most the acceptance of a card that is only checked. -/
theorem run_stderr
    : (command.run files).stderr
      = command.said files
        ++ if (command.run files).exit = 0 ∧ command.isCheck = true then command.acceptance
          else "" := by
  rw [run_eq, said]
  cases command.verdict files with
  | error said => exact String.append_empty.symm
  | ok reached =>
      rcases reached with ⟨source, compilation⟩
      cases checks : command.isCheck <;>
        simp [printSuccess, checks, acceptance, String.append_assoc]

/-- The tree that is reached is printed, unless the card is only checked. -/
theorem run_stdout {compilation : Compilation}
    (reaches : command.Reaches files source (.ok compilation))
    : (command.run files).stdout
      = if command.isCheck then "" else command.format.render compilation.tree := by
  rw [run_eq, verdict_eq_ok_iff.mpr reaches]
  dsimp only
  rw [printSuccess]
  split <;> rfl

/-- Without a tree nothing is printed but the reports. -/
theorem run_stdout_of_fails (failed : (command.run files).exit ≠ 0)
    : (command.run files).stdout = "" := by
  rw [ne_eq, run_exit_iff] at failed
  rw [run_eq]
  cases verdict : command.verdict files with
  | error said => rfl
  | ok reached =>
      rcases reached with ⟨source, compilation⟩
      exact (failed ⟨source, compilation, verdict_eq_ok_iff.mp verdict⟩).elim

end CompileCommand

-----------------------------------------------------------------------------------------
-- Runs of a command line
-----------------------------------------------------------------------------------------

theorem runWords_of_isReadFrom {words : List String} {command : CompileCommand}
    (accepted : command.IsReadFrom words) (files : Files)
    : runWords words files = command.run files := by
  obtain ⟨noColor, accepted⟩ := accepted
  rw [runWords, accepted]
  rfl

/-- The form of output never changes the verdict.  Every command that is read can be spelled with
every form of output, and all these lines end with one status and the same reports.  The status
is zero exactly when the card compiles with the options that load.  Only then a tree is printed,
unless the card is only checked.
-/
theorem runWords_output {words : List String} {command : CompileCommand} (files : Files)
    (accepted : command.IsReadFrom words)
    : let printout := runWords words files
      (∃ said,
        (∀ source outcome,
          command.Reaches files source outcome
          → said = renderAll command.file source (reportsOf outcome))
        ∧ ∀ format isCheck,
            (∃ others, (command.withOutput format isCheck).IsReadFrom others)
            ∧ ∀ others,
                (command.withOutput format isCheck).IsReadFrom others
                → let other := runWords others files
                  other.exit = printout.exit
                  ∧ other.stderr
                    = said
                      ++ if other.exit = 0 ∧ isCheck = true then command.acceptance else "")
      ∧ (printout.exit = 0
          ↔ ∃ options source compilation,
              command.Loads files options
              ∧ files.text command.file = .ok source
              ∧ compile source options 0 = .ok compilation)
      ∧ (printout.exit ≠ 0 ∨ command.isCheck = true → printout.stdout = "")
      ∧ ∀ source compilation,
          command.Reaches files source (.ok compilation)
          → command.isCheck = false
          → printout.stdout
            = match command.format with
              | .tree => compilation.tree.outline
              | .json => compilation.tree.toJson.pretty ++ "\n"
              | .html => compilation.tree.html ++ "\n" := by
  dsimp only
  rw [runWords_of_isReadFrom accepted files]
  refine ⟨?reports, ?status, ?silent, ?shown⟩
  case reports =>
    refine ⟨command.said files, fun _ _ => CompileCommand.said_of_reaches,
      fun format isCheck => ⟨accepted.withOutput format isCheck, fun others read => ?_⟩⟩
    rw [runWords_of_isReadFrom read files, ← CompileCommand.said_withOutput format isCheck]
    exact ⟨CompileCommand.run_exit_withOutput format isCheck, CompileCommand.run_stderr⟩
  case status =>
    rw [CompileCommand.run_exit_iff]
    constructor
    · rintro ⟨source, compilation, options, reaches⟩
      exact ⟨options, source, compilation, reaches⟩
    · rintro ⟨options, source, compilation, reaches⟩
      exact ⟨source, compilation, options, reaches⟩
  case silent =>
    intro silent
    by_cases zero : (command.run files).exit = 0
    · obtain ⟨source, compilation, reaches⟩ := CompileCommand.run_exit_iff.mp zero
      rw [CompileCommand.run_stdout reaches,
        if_pos (silent.resolve_left fun failed => failed zero)]
    · exact CompileCommand.run_stdout_of_fails zero
  case shown =>
    intro source compilation reaches shown
    rw [CompileCommand.run_stdout reaches, shown, Format.render.eq_def]
    rfl

/-- The text of a card with a rule. -/
def ruledCard : String :=
  "\x7b\"elements\": [\x7b\"tag\": \"hr\"\x7d]\x7d"

/-- The text of a configuration with a locale and a level. -/
def silentConfig : String :=
  "locale = \"fr\"\nvalidate = \"off\""

/-- The card and the configuration as files. -/
def configuredFiles : Files
  | "card.json" => .ok (.file (.ok ruledCard))
  | "card.toml" => .ok (.file (.ok silentConfig))
  | _ => .error .missing

/-- A command with a configuration of which it overrides the level. -/
def strictCommand : CompileCommand where
  file := "card.json"
  level := some .error
  locale := none
  maxDepth := none
  config := some "card.toml"
  format := .json
  isCheck := false

theorem strictCommand_loads
    : strictCommand.Loads configuredFiles { level := .error, locale := some "fr" } := by
  have read : Options.ofToml? silentConfig = some { level := .off, locale := some "fr" } := by
    decide +kernel
  have configured
      : strictCommand.configured configuredFiles = .ok { level := .off, locale := some "fr" } :=
    CompileCommand.configured_of_file rfl rfl read
  exact CompileCommand.options_eq_ok_iff.mp
    (congrArg (Except.map strictCommand.overriding) configured)

/-- The card compiles, and does so on every line that only checks it. -/
theorem strictCommand_output
    : let words := ["card", "--config", "card.toml", "--validate=error", "-fjson", "card.json"]
      strictCommand.IsReadFrom words
      ∧ (runWords words configuredFiles).exit = 0
      ∧ ∀ others,
          (strictCommand.withOutput .html true).IsReadFrom others
          → (runWords others configuredFiles).exit = 0 := by
  intro words
  have accepted : strictCommand.IsReadFrom words := ⟨false, rfl⟩
  obtain ⟨⟨_, _, modes⟩, status, _⟩ := runWords_output configuredFiles accepted
  have evaluated
      : (compile ruledCard { level := .error, locale := some "fr" } 0).isOk = true := by
    decide +kernel
  have zero : (runWords words configuredFiles).exit = 0 := by
    cases compiled : compile ruledCard { level := .error, locale := some "fr" } 0 with
    | error failure =>
        rw [compiled] at evaluated
        cases evaluated
    | ok compilation => exact status.mpr ⟨_, _, compilation, strictCommand_loads, rfl, compiled⟩
  exact ⟨accepted, zero, fun others read => ((modes .html true).2 others read).1.trans zero⟩

end MessageCard
