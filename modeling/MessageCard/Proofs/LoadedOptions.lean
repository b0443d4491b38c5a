import MessageCard.CommandLine.Run

/-! Where the options of a compilation come from.  A table that is read has no name twice, so each
setting of a configuration file has at most one value.  An option is what the command gives, or
else what the file gives, or else the default.
-/

namespace MessageCard

-----------------------------------------------------------------------------------------
-- The names of a table
-----------------------------------------------------------------------------------------

namespace Toml

variable {name : String} {value : Toml} {entries : Entries}

/-- No two entries of a table have the same name. -/
def Distinct (entries : Entries) : Prop :=
  (entries.map Prod.fst).Nodup

theorem lookup_cons (other : String)
    : lookup name ((other, value) :: entries)
      = if other = name then some value else lookup name entries := by
  rw [lookup, List.find?_cons]
  by_cases same : other = name
  · rw [if_pos same, beq_iff_eq.mpr same]
    rfl
  · rw [if_neg same, beq_eq_false_iff_ne.mpr same]
    rfl

theorem lookup_eq_none_iff : lookup name entries = none ↔ name ∉ entries.map Prod.fst := by
  rw [lookup, Option.map_eq_none_iff, List.find?_eq_none, List.mem_map]
  constructor
  · rintro absent ⟨entry, member, rfl⟩
    exact absent entry member (beq_self_eq_true _)
  · intro absent entry member same
    exact absent ⟨entry, member, beq_iff_eq.mp same⟩

theorem mem_names_put {other : String}
    : other ∈ (put name value entries).map Prod.fst
      ↔ other = name ∨ other ∈ entries.map Prod.fst := by
  induction entries with
  | nil => simp [put]
  | cons entry entries ih =>
      rcases entry with ⟨first, old⟩
      rw [put]
      split
      · rename_i same
        subst same
        simp
      · rw [List.map_cons, List.mem_cons, ih, List.map_cons, List.mem_cons]
        exact or_left_comm

/-- A name is put in place of itself or behind the others, by induction over the entries. -/
theorem Distinct.put (distinct : Distinct entries) : Distinct (Toml.put name value entries) := by
  induction entries with
  | nil => exact List.pairwise_singleton _ name
  | cons entry entries ih =>
      rcases entry with ⟨first, old⟩
      obtain ⟨fresh, others⟩ := List.nodup_cons.mp distinct
      rw [Toml.put]
      split
      · rename_i same
        exact same ▸ distinct
      · rename_i other
        refine List.nodup_cons.mpr ⟨fun member => ?_, ih others⟩
        rcases mem_names_put.mp member with same | member
        · exact other same
        · exact fresh member

/-- Steps that keep the names of a table distinct. -/
def KeepsDistinct (change : Entries → Option Entries) : Prop :=
  ∀ entries result, Distinct entries → change entries = some result → Distinct result

/-- Below the top of a path the table itself is given one value: cases on what the first name
has.
-/
theorem KeepsDistinct.within {way : Origin} {path : List String}
    {change : Origin → Entries → Option Entries}
    (top : path = [] → ∀ origin, KeepsDistinct (change origin)) (origin : Origin)
    : KeepsDistinct (Toml.within way path change origin) := by
  intro entries result distinct changed
  cases path with
  | nil => exact top rfl origin entries result distinct changed
  | cons name path =>
      rw [Toml.within] at changed
      split at changed
      · obtain ⟨inner, _, rfl⟩ := Option.map_eq_some_iff.mp changed
        exact distinct.put
      · split at changed
        · cases changed
        · obtain ⟨inner, _, rfl⟩ := Option.map_eq_some_iff.mp changed
          exact distinct.put
      · split at changed
        · cases changed
        · obtain ⟨inner, _, rfl⟩ := Option.map_eq_some_iff.mp changed
          exact distinct.put
      · cases changed

theorem KeepsDistinct.addEntry (key : Key) (origin : Origin)
    : KeepsDistinct (Toml.addEntry key value origin) := by
  refine KeepsDistinct.within (fun _ origin entries result distinct changed => ?_) origin
  split at changed
  · rw [putNew] at changed
    split at changed
    · cases changed
      exact distinct.put
    · cases changed
  · cases changed

/-- Steps that keep names distinct do so one after the other, by induction over the steps. -/
theorem KeepsDistinct.foldlM {α : Type} {step : Entries → α → Option Entries}
    (each : ∀ item, KeepsDistinct fun entries => step entries item) (items : List α)
    : KeepsDistinct fun entries => items.foldlM step entries := by
  induction items with
  | nil =>
      intro entries result distinct changed
      cases changed
      exact distinct
  | cons item items ih =>
      intro entries result distinct changed
      obtain ⟨next, stepped, changed⟩ := Option.bind_eq_some_iff.mp changed
      exact ih next result (each item entries next distinct stepped) changed

theorem KeepsDistinct.addEntries (keys : List (Key × Toml)) (origin : Origin)
    : KeepsDistinct (Toml.addEntries keys origin) :=
  .foldlM (fun (key, _) => .addEntry key origin) keys

theorem KeepsDistinct.addBlock (block : Block) : KeepsDistinct block.add := by
  refine KeepsDistinct.within (fun _ _ entries result distinct changed => ?_) .header
  split at changed
  · rw [Block.addElement] at changed
    split at changed
    · obtain ⟨inner, _, rfl⟩ := Option.map_eq_some_iff.mp changed
      exact distinct.put
    · obtain ⟨inner, _, rfl⟩ := Option.map_eq_some_iff.mp changed
      exact distinct.put
    · cases changed
  · rw [Block.addTable] at changed
    split at changed
    · obtain ⟨inner, _, rfl⟩ := Option.map_eq_some_iff.mp changed
      exact distinct.put
    · obtain ⟨inner, _, rfl⟩ := Option.map_eq_some_iff.mp changed
      exact distinct.put
    · cases changed

/-- The table of a document that is read has no name twice. -/
theorem ofText_distinct {text : List Char} (read : ofText text = some entries)
    : Distinct entries := by
  obtain ⟨found, _, filled⟩ := Option.bind_eq_some_iff.mp read
  obtain ⟨above, added, filled⟩ := Option.bind_eq_some_iff.mp filled
  have distinct := KeepsDistinct.addEntries (blocks found).1 .header [] above List.nodup_nil added
  exact KeepsDistinct.foldlM .addBlock (blocks found).2 above entries distinct filled

-----------------------------------------------------------------------------------------
-- Records that are filled
-----------------------------------------------------------------------------------------

variable {α β : Type} {settings : List (Setting α)} {whole : α}

theorem fill_cons {isClosed : Bool}
    : fill settings isClosed whole ((name, value) :: entries)
      = (match settings.find? fun setting : Setting α => setting.name == name with
          | some setting => setting.put whole value
          | none => if isClosed then none else some whole).bind
        fun whole => fill settings isClosed whole entries :=
  List.foldlM_cons

/-- An entry that has a setting is put in place before the entries behind it. -/
theorem fill_known {inner : Toml → Option β} {put : α → β → α} {isClosed : Bool}
    (found : settings.find? (·.name == name) = some (.of name inner put))
    : fill settings isClosed whole ((name, value) :: entries)
      = (inner value).bind fun given => fill settings isClosed (put whole given) entries := by
  rw [fill_cons, found]
  exact Option.bind_map

theorem fill_unknown (absent : settings.find? (·.name == name) = none)
    : fill settings true whole ((name, value) :: entries) = none := by
  rw [fill_cons, absent]
  rfl

end Toml

-----------------------------------------------------------------------------------------
-- Configuration files
-----------------------------------------------------------------------------------------

namespace Options

open Toml

/-- The entry of a configuration file is a setting with a value that the setting can have. -/
inductive IsSetting : String × Toml → Prop
  | level {value : Toml} {level : Level} (read : level? value = some level)
    : IsSetting ("validate", value)
  | locale {value : Toml} {locale : String} (read : text? value = some locale)
    : IsSetting ("locale", value)
  | maxDepth {value : Toml} {maxDepth : Nat} (read : nat? value = some maxDepth)
    : IsSetting ("max_depth", value)

/-- Options with those put in their place that the entries of a configuration file give. -/
def settled (options : Options) (entries : Entries) : Options where
  level := ((lookup "validate" entries).bind level?).getD options.level
  locale := ((lookup "locale" entries).bind text?).or options.locale
  maxDepth := ((lookup "max_depth" entries).bind nat?).getD options.maxDepth

variable {options found : Options} {name : String} {value : Toml} {entries : Entries}

theorem find?_level
    : settings.find? (·.name == "validate")
      = some (.of "validate" level? fun (options : Options) level => { options with level }) :=
  rfl

theorem find?_locale
    : settings.find? (·.name == "locale")
      = some (.of "locale" text? fun (options : Options) locale =>
          { options with locale := some locale }) :=
  rfl

theorem find?_maxDepth
    : settings.find? (·.name == "max_depth")
      = some (.of "max_depth" nat? fun (options : Options) maxDepth =>
          { options with maxDepth }) :=
  rfl

/-- An entry that is a setting is put in place; no entry behind it has its name. -/
theorem IsSetting.fill_cons (known : IsSetting (name, value)) (fresh : name ∉ entries.map Prod.fst)
    : ∃ next : Options,
        fill settings true options ((name, value) :: entries) = fill settings true next entries
        ∧ options.settled ((name, value) :: entries) = next.settled entries := by
  have absent := lookup_eq_none_iff.mpr fresh
  cases known with
  | @level value level read =>
      refine ⟨{ options with level }, ?_, ?_⟩
      · rw [fill_known find?_level, read]
        rfl
      · simp [Options.settled, lookup_cons, absent, read]
  | @locale value locale read =>
      refine ⟨{ options with locale := some locale }, ?_, ?_⟩
      · rw [fill_known find?_locale, read]
        rfl
      · simp [Options.settled, lookup_cons, absent, read]
  | @maxDepth value maxDepth read =>
      refine ⟨{ options with maxDepth }, ?_, ?_⟩
      · rw [fill_known find?_maxDepth, read]
        rfl
      · simp [Options.settled, lookup_cons, absent, read]

/-- No other entry is taken: its name is unknown, or its value is none that the setting can have. -/
theorem fill_cons_of_not_isSetting (unknown : ¬ IsSetting (name, value))
    : fill settings true options ((name, value) :: entries) = none := by
  by_cases isLevel : name = "validate"
  · subst isLevel
    rw [fill_known find?_level, Option.bind_eq_none_iff]
    exact fun level read => (unknown (.level read)).elim
  by_cases isLocale : name = "locale"
  · subst isLocale
    rw [fill_known find?_locale, Option.bind_eq_none_iff]
    exact fun locale read => (unknown (.locale read)).elim
  by_cases isMaxDepth : name = "max_depth"
  · subst isMaxDepth
    rw [fill_known find?_maxDepth, Option.bind_eq_none_iff]
    exact fun maxDepth read => (unknown (.maxDepth read)).elim
  apply fill_unknown
  simp [settings, Setting.of, Ne.symm isLevel, Ne.symm isLocale, Ne.symm isMaxDepth]

/-- Options are filled from entries with different names exactly when all of these are settings, by
induction over the entries.
-/
theorem fill_eq_some_iff (distinct : Distinct entries)
    : fill settings true options entries = some found
      ↔ (∀ entry ∈ entries, IsSetting entry) ∧ found = options.settled entries := by
  induction entries generalizing options with
  | nil =>
      have nothing : options.settled [] = options := rfl
      rw [nothing]
      exact ⟨fun same => ⟨nofun, (Option.some.inj same).symm⟩, fun ⟨_, same⟩ => same ▸ rfl⟩
  | cons entry entries ih =>
      rcases entry with ⟨name, value⟩
      obtain ⟨fresh, others⟩ := List.nodup_cons.mp distinct
      rw [List.forall_mem_cons]
      by_cases known : IsSetting (name, value)
      · obtain ⟨next, filled, same⟩ := known.fill_cons fresh
        rw [filled, same, ih others, and_iff_right known]
      · rw [fill_cons_of_not_isSetting known]
        exact ⟨nofun, fun ⟨⟨setting, _⟩, _⟩ => (known setting).elim⟩

end Options

-----------------------------------------------------------------------------------------
-- Options of a command
-----------------------------------------------------------------------------------------

namespace CompileCommand

open Toml

variable {command : CompileCommand} {files : Files} {entries : Entries} {options : Options}

/-- The configuration of a command consists of the entries of its file; without a file there are
none.
-/
inductive Configuration (command : CompileCommand) (files : Files) : Entries → Prop
  | absent (missing : command.config = none) : Configuration command files []
  | file {path text : String} {entries : Entries} (given : command.config = some path)
      (readable : files.text path = .ok text) (read : ofText text.toList = some entries)
    : Configuration command files entries

/-- The options of a command with these entries in its configuration file: what the command gives
goes before what the file gives, and that before the default.
-/
structure Chooses (command : CompileCommand) (entries : Entries) (options : Options) : Prop where
  settings : ∀ entry ∈ entries, Options.IsSetting entry
  level
    : options.level
      = (command.level.or ((lookup "validate" entries).bind level?)).getD .warning
  locale : options.locale = command.locale.or ((lookup "locale" entries).bind text?)
  maxDepth
    : options.maxDepth = (command.maxDepth.or ((lookup "max_depth" entries).bind nat?)).getD 32

/-- The options of a command load. -/
def Loads (command : CompileCommand) (files : Files) (options : Options) : Prop :=
  ∃ entries, command.Configuration files entries ∧ command.Chooses entries options

theorem Configuration.distinct (configuration : command.Configuration files entries)
    : Distinct entries := by
  cases configuration with
  | absent missing => exact List.nodup_nil
  | file given readable read => exact ofText_distinct read

theorem configured_of_file {path text : String} (given : command.config = some path)
    (readable : files.text path = .ok text) (read : Options.ofToml? text = some options)
    : command.configured files = .ok options := by
  simp only [configured, given, readable, read]

/-- The configured options are those that the entries give over the defaults. -/
theorem configured_eq_ok_iff
    : command.configured files = .ok options
      ↔ ∃ entries, command.Configuration files entries
        ∧ (∀ entry ∈ entries, Options.IsSetting entry)
        ∧ options = Options.settled {} entries := by
  constructor
  · intro loaded
    rw [configured] at loaded
    split at loaded
    · rename_i missing
      cases loaded
      exact ⟨[], .absent missing, nofun, rfl⟩
    · rename_i path given
      split at loaded
      · cases loaded
      · rename_i text readable
        split at loaded
        · cases loaded
        · rename_i found filled
          cases loaded
          obtain ⟨entries, read, filled⟩ := Option.bind_eq_some_iff.mp filled
          have known := (Options.fill_eq_some_iff (ofText_distinct read)).mp filled
          exact ⟨entries, .file given readable read, known⟩
  · rintro ⟨entries, configuration, known⟩
    have filled := (Options.fill_eq_some_iff configuration.distinct).mpr known
    cases configuration with
    | absent missing =>
        rw [configured, missing, known.2]
        rfl
    | file given readable read =>
        exact configured_of_file given readable
          (Option.bind_eq_some_iff.mpr ⟨entries, read, filled⟩)

theorem chooses_iff
    : command.Chooses entries options
      ↔ (∀ entry ∈ entries, Options.IsSetting entry)
        ∧ options = command.overriding (Options.settled {} entries) := by
  rcases options with ⟨level, locale, maxDepth⟩
  have parts
      : command.overriding (Options.settled {} entries)
        = {
          level := (command.level.or ((lookup "validate" entries).bind level?)).getD .warning
          locale := command.locale.or ((lookup "locale" entries).bind text?)
          maxDepth := (command.maxDepth.or ((lookup "max_depth" entries).bind nat?)).getD 32 } := by
    simp [overriding, Options.settled, Option.getD_or]
  rw [parts]
  constructor
  · rintro ⟨settings, rfl, rfl, rfl⟩
    exact ⟨settings, rfl⟩
  · rintro ⟨settings, same⟩
    cases same
    exact ⟨settings, rfl, rfl, rfl⟩

/-- The options of a command are those that load. -/
theorem options_eq_ok_iff : command.options files = .ok options ↔ command.Loads files options := by
  have mapped
      : command.options files = .ok options
        ↔ ∃ chosen, command.configured files = .ok chosen
          ∧ command.overriding chosen = options := by
    rw [CompileCommand.options]
    cases command.configured files <;> simp [Except.map]
  rw [mapped]
  constructor
  · rintro ⟨chosen, loaded, rfl⟩
    obtain ⟨entries, configuration, settings, rfl⟩ := configured_eq_ok_iff.mp loaded
    exact ⟨entries, configuration, chooses_iff.mpr ⟨settings, rfl⟩⟩
  · rintro ⟨entries, configuration, chooses⟩
    obtain ⟨settings, rfl⟩ := chooses_iff.mp chooses
    exact ⟨_, configured_eq_ok_iff.mpr ⟨entries, configuration, settings, rfl⟩, rfl⟩

end CompileCommand

end MessageCard
