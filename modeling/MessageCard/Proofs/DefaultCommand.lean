import MessageCard.CommandLine.Run

/-! The shorthand of the compile command.  Its flags and a file behind the name of the program are
read as if the command stood before them.  Where the first bare word is a value that is spelled like
a command, the line stays as it is and is refused.
-/

namespace MessageCard

/-- The switches of the compile command that take a value, with their short spellings. -/
inductive ValueSwitch
  | validate
  | locale
  | shortLocale
  | maxDepth
  | config
  | format
  | shortFormat
deriving DecidableEq, Repr

/-- A switch as command lines spell it. -/
def ValueSwitch.word : ValueSwitch → String
  | validate => "--validate"
  | locale => "--locale"
  | shortLocale => "-l"
  | maxDepth => "--max-depth"
  | config => "--config"
  | format => "--format"
  | shortFormat => "-f"

/-- A flag of the compile command; a value follows its switch as a word or behind an equals sign. -/
inductive CompileFlag
  | noColor
  | check
  | detached (switch : ValueSwitch) (value : String)
  | attached (switch : ValueSwitch) (value : String)
deriving DecidableEq, Repr

namespace CompileFlag

/-- The words of a flag. -/
def words : CompileFlag → List String
  | noColor => ["--no-color"]
  | check => ["--check"]
  | detached switch value => [switch.word, value]
  | attached switch value => [switch.word ++ "=" ++ value]

/-- The value that follows a switch as a word. -/
def detached? : CompileFlag → Option String
  | detached _ value => some value
  | _ => none

/-- The words of flags, and the file behind them. -/
def line (flags : List CompileFlag) (file : String) : List String :=
  flags.flatMap words ++ [file]

/-- The first bare word among flags is a value that is spelled like a command. -/
def NamesCommand (flags : List CompileFlag) : Prop :=
  ∃ word ∈ (flags.filterMap detached?).find? isBare, word ∈ commandWords

instance (flags : List CompileFlag) : Decidable (NamesCommand flags) :=
  inferInstanceAs
    (Decidable (∃ word ∈ (flags.filterMap detached?).find? isBare, word ∈ commandWords))

end CompileFlag

-----------------------------------------------------------------------------------------
-- The first bare word
-----------------------------------------------------------------------------------------

theorem isBare_eq_false_iff {word : String}
    : isBare word = false ↔ word.toList.head? = some '-' := by
  rw [isBare, bne_eq_false_iff_eq]

theorem isBare_of_mem {word : String} (named : word ∈ commandWords)
    : isBare word = true := by
  have all : ∀ word ∈ commandWords, isBare word = true := by decide
  exact all word named

theorem ValueSwitch.head?_word (switch : ValueSwitch)
    : switch.word.toList.head? = some '-' := by
  cases switch <;> rfl

theorem ValueSwitch.isBare_attached (switch : ValueSwitch) (value : String)
    : isBare (switch.word ++ "=" ++ value) = false := by
  rw [isBare_eq_false_iff, String.toList_append, String.toList_append, List.append_assoc,
    List.head?_append, switch.head?_word]
  rfl

namespace CompileFlag

/-- The bare words among flags are values that follow their switches. -/
theorem find?_isBare_words (flags : List CompileFlag) (rest : List String)
    : (flags.flatMap words ++ rest).find? isBare
      = (flags.filterMap detached? ++ rest).find? isBare := by
  induction flags with
  | nil => rfl
  | cons flag flags ih =>
      rw [List.flatMap_cons, List.append_assoc]
      cases flag with
      | noColor => exact ih
      | check => exact ih
      | detached switch value =>
          have dashed : ¬ isBare switch.word = true :=
            Bool.eq_false_iff.mp (isBare_eq_false_iff.mpr switch.head?_word)
          change (switch.word :: value :: (flags.flatMap words ++ rest)).find? isBare
            = (value :: (flags.filterMap detached? ++ rest)).find? isBare
          rw [List.find?_cons_of_neg dashed, List.find?_cons, List.find?_cons, ih]
      | attached switch value =>
          have dashed : ¬ isBare (switch.word ++ "=" ++ value) = true :=
            Bool.eq_false_iff.mp (switch.isBare_attached value)
          exact (List.find?_cons_of_neg dashed).trans ih

/-- The first bare word of a line is a value, or else the file. -/
theorem find?_isBare_line (flags : List CompileFlag) {file : String} (bare : isBare file = true)
    : (line flags file).find? isBare
      = some (((flags.filterMap detached?).find? isBare).getD file) := by
  rw [line, find?_isBare_words, List.find?_append, List.find?_cons_of_pos bare]
  cases (flags.filterMap detached?).find? isBare <;> rfl

end CompileFlag

-----------------------------------------------------------------------------------------
-- The line with the command put in
-----------------------------------------------------------------------------------------

/-- The command is put in before a bare word that names none. -/
theorem withDefaultCommand_of_free {program word : String} {rest : List String}
    (first : rest.find? isBare = some word) (free : word ∉ commandWords)
    : withDefaultCommand (program :: rest) = program :: "compile" :: rest := by
  rw [withDefaultCommand, first]
  exact if_neg (mt List.contains_iff_mem.mp free)

/-- A line that names its command stays as it is. -/
theorem withDefaultCommand_of_named {program word : String} {rest : List String}
    (first : rest.find? isBare = some word) (named : word ∈ commandWords)
    : withDefaultCommand (program :: rest) = program :: rest := by
  rw [withDefaultCommand, first]
  exact if_pos (List.contains_iff_mem.mpr named)

/-- A command is found behind switches without values. -/
theorem withDefaultCommand_switches (program : String) {switches : List String} {command : String}
    (rest : List String) (dashed : ∀ word ∈ switches, isBare word = false)
    (named : command ∈ commandWords)
    : withDefaultCommand (program :: (switches ++ command :: rest))
      = program :: (switches ++ command :: rest) := by
  have none : switches.find? isBare = none := by
    rw [List.find?_eq_none]
    intro word member bare
    cases (dashed word member).symm.trans bare
  have first : (switches ++ command :: rest).find? isBare = some command := by
    rw [List.find?_append, none, Option.none_or, List.find?_cons_of_pos (isBare_of_mem named)]
  exact withDefaultCommand_of_named first named

namespace CompileFlag

/-- The line names a command exactly when a value does, for the file names none. -/
theorem withDefaultCommand_line (program : String) {file : String} (flags : List CompileFlag)
    (bare : isBare file = true) (free : file ∉ commandWords)
    : (NamesCommand flags
        → withDefaultCommand (program :: line flags file) = program :: line flags file)
      ∧ (¬ NamesCommand flags
        → withDefaultCommand (program :: line flags file)
          = program :: "compile" :: line flags file) := by
  have first := find?_isBare_line flags bare
  constructor
  · rintro ⟨word, found, named⟩
    rw [found] at first
    exact withDefaultCommand_of_named first named
  · intro unnamed
    cases found : (flags.filterMap detached?).find? isBare with
    | none =>
        rw [found] at first
        exact withDefaultCommand_of_free first free
    | some word =>
        rw [found] at first
        exact withDefaultCommand_of_free first fun named => unnamed ⟨word, found, named⟩

end CompileFlag

-----------------------------------------------------------------------------------------
-- The line without the command
-----------------------------------------------------------------------------------------

/-- Words behind the name of the program with which nothing is done. -/
def Misused (noColor : Bool) (words : List String) : Prop :=
  ∃ error, Invocation.read noColor words = .error error ∧ error.printout.exit = 2

/-- A word that names no command is a switch of the program, or nothing at all. -/
theorem read_of_free {noColor : Bool} {word : String} {rest : List String}
    (free : word ∉ commandWords) (other : word ≠ "--")
    : Invocation.read noColor (word :: rest)
      = match programGrammar.readSwitch? word (.settled noColor) with
        | some reading => do Invocation.read (← (← reading).settle) rest
        | none => .error (.unknownCommand word) := by
  apply Invocation.read.eq_6
  · exact fun same => free (same ▸ by decide)
  · exact fun same => free (same ▸ by decide)
  · exact fun same => free (same ▸ by decide)
  · exact other

/-- No word is a switch unless a dash is in front of it. -/
theorem readSwitch?_eq_none {word : String} {progress : Progress Bool} (bare : isBare word = true)
    : programGrammar.readSwitch? word progress = none := by
  have front : ¬ word.toList.head? = some '-' := fun dash => by
    cases (isBare_eq_false_iff.mpr dash).symm.trans bare
  rw [Grammar.readSwitch?]
  split
  · rename_i text spelled
    exact (front (spelled ▸ rfl)).elim
  · rfl
  · rename_i text spelled
    exact (front (spelled ▸ rfl)).elim
  · rfl

theorem misused_of_bare {noColor : Bool} {word : String} {rest : List String}
    (bare : isBare word = true) (free : word ∉ commandWords)
    : Misused noColor (word :: rest) := by
  have other : word ≠ "--" := by
    rintro rfl
    cases bare
  refine ⟨.unknownCommand word, ?_, rfl⟩
  rw [read_of_free free other, readSwitch?_eq_none bare]

namespace ValueSwitch

/-- The program itself knows no switch with a value. -/
theorem misused_word (switch : ValueSwitch) (noColor : Bool) (rest : List String)
    : Misused noColor (switch.word :: rest) := by
  cases switch <;> exact ⟨_, rfl, rfl⟩

theorem readSwitch?_attached (switch : ValueSwitch) (value : String) (progress : Progress Bool)
    : ∃ name, programGrammar.readSwitch? (switch.word ++ "=" ++ value) progress
      = some (.error (.unknownArgument name)) := by
  rw [Grammar.readSwitch?, String.toList_append, String.toList_append]
  cases switch <;> exact ⟨_, rfl⟩

theorem misused_attached (switch : ValueSwitch) (value : String) (noColor : Bool)
    (rest : List String)
    : Misused noColor ((switch.word ++ "=" ++ value) :: rest) := by
  have free : switch.word ++ "=" ++ value ∉ commandWords := fun named => by
    cases (switch.isBare_attached value).symm.trans (isBare_of_mem named)
  have equals : '=' ∈ (switch.word ++ "=" ++ value).toList := by
    rw [String.toList_append, String.toList_append]
    exact List.mem_append_left _ (List.mem_append_right _ (List.mem_singleton_self _))
  have other : switch.word ++ "=" ++ value ≠ "--" := fun same =>
    absurd (same ▸ equals : '=' ∈ "--".toList) (by decide)
  obtain ⟨name, unknown⟩ := switch.readSwitch?_attached value (.settled noColor)
  refine ⟨.unknownArgument name, ?_, rfl⟩
  rw [read_of_free free other, unknown]
  rfl

end ValueSwitch

/-- Without the command no line is read, by induction over its flags: the one that the program knows
itself leads on to the next.
-/
theorem CompileFlag.misused_line {file : String} (bare : isBare file = true)
    (free : file ∉ commandWords) (flags : List CompileFlag) (noColor : Bool)
    : Misused noColor (line flags file) := by
  induction flags generalizing noColor with
  | nil => exact misused_of_bare bare free
  | cons flag flags ih =>
      cases flag with
      | noColor =>
          cases noColor with
          | false => exact ih true
          | true => exact ⟨_, rfl, rfl⟩
      | check => exact ⟨_, rfl, rfl⟩
      | detached switch value => exact switch.misused_word noColor _
      | attached switch value => exact switch.misused_attached value noColor _

/-- The shorthand means the compile command, unless a value among the flags is the first bare word
and is spelled like a command.  Then the line is left as it is, and is refused.  A line that names
its command behind switches is left as it is too.
-/
theorem runWords_shorthand (program file : String) (flags : List CompileFlag)
    (bare : isBare file = true) (free : file ∉ commandWords)
    : (withDefaultCommand (program :: CompileFlag.line flags file)
          = program :: "compile" :: CompileFlag.line flags file
        ↔ ¬ CompileFlag.NamesCommand flags)
      ∧ (¬ CompileFlag.NamesCommand flags
        → Invocation.ofWords (withDefaultCommand (program :: CompileFlag.line flags file))
            = Invocation.readCompile false (CompileFlag.line flags file)
          ∧ ∀ files,
              runWords (program :: CompileFlag.line flags file) files
              = runWords (program :: "compile" :: CompileFlag.line flags file) files)
      ∧ (CompileFlag.NamesCommand flags
        → withDefaultCommand (program :: CompileFlag.line flags file)
            = program :: CompileFlag.line flags file
          ∧ ∀ files, (runWords (program :: CompileFlag.line flags file) files).exit = 2)
      ∧ ∀ (switches : List String) (command : String) (rest : List String),
          (∀ word ∈ switches, isBare word = false)
          → command ∈ commandWords
          → withDefaultCommand (program :: (switches ++ command :: rest))
            = program :: (switches ++ command :: rest) := by
  obtain ⟨kept, inserted⟩ := CompileFlag.withDefaultCommand_line program flags bare free
  refine ⟨⟨?_, inserted⟩, ?_, ?_, ?_⟩
  · intro same named
    have lengths := congrArg List.length ((kept named).symm.trans same)
    exact absurd lengths (by simp)
  · intro unnamed
    have spelled
        : withDefaultCommand (program :: "compile" :: CompileFlag.line flags file)
          = program :: "compile" :: CompileFlag.line flags file :=
      withDefaultCommand_of_named rfl (by decide)
    rw [inserted unnamed]
    refine ⟨rfl, fun files => ?_⟩
    rw [runWords, runWords, inserted unnamed, spelled]
  · intro named
    refine ⟨kept named, fun files => ?_⟩
    obtain ⟨error, refused, exit⟩ := CompileFlag.misused_line bare free flags false
    rw [runWords, kept named, Invocation.ofWords, List.drop_one, List.tail_cons, refused]
    exact exit
  · intro switches command rest dashed named
    exact withDefaultCommand_switches program rest dashed named

/-- A value that is spelled like a command but stands behind an equals sign is passed over. -/
theorem attachedLocale_shorthand
    : isBare "x.json" = true
      ∧ "x.json" ∉ commandWords
      ∧ ¬ CompileFlag.NamesCommand [.attached .locale "test", .detached .format "json"]
      ∧ ∀ files,
          runWords ["card", "--locale=test", "--format", "json", "x.json"] files
          = runWords ["card", "compile", "--locale=test", "--format", "json", "x.json"] files := by
  have bare : isBare "x.json" = true := rfl
  have free : "x.json" ∉ commandWords := by decide
  have unnamed
      : ¬ CompileFlag.NamesCommand [.attached .locale "test", .detached .format "json"] := by
    decide
  have shorthand := runWords_shorthand "card" "x.json"
    [.attached .locale "test", .detached .format "json"] bare free
  exact ⟨bare, free, unnamed, (shorthand.2.1 unnamed).2⟩

/-- A locale that is spelled like a command is taken for it, though the compile command reads it. -/
theorem localeTest_refused
    : withDefaultCommand ["card", "--locale", "test", "x.json"]
        = ["card", "--locale", "test", "x.json"]
      ∧ (∀ files, (runWords ["card", "--locale", "test", "x.json"] files).exit = 2)
      ∧ Invocation.ofWords ["card", "compile", "--locale", "test", "x.json"]
        = .ok {
          command := .compile {
            file := "x.json"
            level := none
            locale := some "test"
            maxDepth := none
            config := none
            format := .tree
            isCheck := false }
          noColor := false } :=
  ⟨by decide, fun files => rfl, rfl⟩

end MessageCard
