import MessageCard.Proofs.DefaultCommand
import MessageCard.Proofs.ReaderInvariants

/-! Spelling commands.  What a grammar reads into a draft is one effect of a switch after the
other, so that a property of drafts that each effect keeps holds of what is read.  The bound on
numbers is one of them, and it makes every command that is read one that can be spelled again,
with any form of output.
-/

namespace MessageCard

open Json.Reader (bind_ok_iff)

-----------------------------------------------------------------------------------------
-- Properties of drafts
-----------------------------------------------------------------------------------------

variable {σ : Type} {Holds : σ → Prop} {grammar : Grammar σ} {progress next : Progress σ}
  {draft : σ}

/-- Values are taken into drafts in such a way that the property is kept. -/
def KeepsTaking (Holds : σ → Prop) (take : σ → String → Usage σ) : Prop :=
  ∀ draft text next, Holds draft → take draft text = .ok next → Holds next

/-- An effect of a switch keeps a property of drafts. -/
def SwitchEffect.Keeps (Holds : σ → Prop) : SwitchEffect σ → Prop
  | help => True
  | version => True
  | flag set => ∀ draft next, Holds draft → set draft = some next → Holds next
  | value take => KeepsTaking Holds take

/-- Whatever a word does to a draft keeps a property. -/
structure Grammar.Keeps (grammar : Grammar σ) (Holds : σ → Prop) : Prop where
  switches : ∀ switch ∈ grammar.switches, switch.effect.Keeps Holds
  place : ∀ draft word, Holds draft → Holds (grammar.place draft word)

/-- The draft has a property, and a value that is still pending will keep it. -/
structure Progress.Keeps (progress : Progress σ) (Holds : σ → Prop) : Prop where
  draft : Holds progress.draft
  pending : ∀ pending ∈ progress.pending, KeepsTaking Holds pending.take

theorem Progress.Keeps.settled (holds : Holds draft) : (Progress.settled draft).Keeps Holds where
  draft := holds
  pending := nofun

theorem Progress.Keeps.settle (keeps : progress.Keeps Holds) (settled : progress.settle = .ok draft)
    : Holds draft := by
  rcases progress with ⟨before, pending⟩
  match pending, settled with
  | none, settled => exact Except.ok.inj settled ▸ keeps.draft
  | some { name := _, take, value := some value }, settled =>
      exact keeps.pending _ rfl before value draft keeps.draft settled

theorem Progress.Keeps.give? {value : String} (keeps : progress.Keeps Holds)
    (given : progress.give? value = some next)
    : next.Keeps Holds := by
  rcases progress with ⟨before, pending⟩
  match pending, given with
  | some { name, take, value := none }, given =>
      cases given
      refine ⟨keeps.draft, fun pending waits => ?_⟩
      cases waits
      exact keeps.pending { name, take, value := none } rfl

namespace Grammar.Keeps

/-- A switch is applied behind what was pending: cases on its effect and on whether a value is
attached to it.
-/
theorem apply {switch : Switch σ} {attached : Option String} (effect : switch.effect.Keeps Holds)
    (keeps : progress.Keeps Holds) (applied : grammar.apply switch attached progress = .ok next)
    : next.Keeps Holds := by
  rcases switch with ⟨long, short, help | version | set | take⟩
  case help =>
    cases attached
    · obtain ⟨draft, _, failed⟩ := bind_ok_iff.mp applied
      cases failed
    · cases applied
  case version =>
    cases attached
    · obtain ⟨draft, _, failed⟩ := bind_ok_iff.mp applied
      cases failed
    · cases applied
  case flag =>
    cases attached
    · obtain ⟨draft, settled, applied⟩ := bind_ok_iff.mp applied
      cases raised : set draft with
      | none => simp [raised] at applied
      | some raisedDraft =>
          simp only [raised] at applied
          cases applied
          exact .settled (effect draft _ (keeps.settle settled) raised)
    · cases applied
  case value =>
    cases attached with
    | none =>
        obtain ⟨draft, settled, applied⟩ := bind_ok_iff.mp applied
        cases applied
        refine ⟨keeps.settle settled, fun pending waits => ?_⟩
        cases waits
        exact effect
    | some text =>
        obtain ⟨draft, settled, applied⟩ := bind_ok_iff.mp applied
        obtain ⟨taken, took, applied⟩ := bind_ok_iff.mp applied
        cases applied
        exact .settled (effect draft text taken (keeps.settle settled) took)

theorem readLong {text : List Char} (kept : grammar.Keeps Holds) (keeps : progress.Keeps Holds)
    (read : grammar.readLong text progress = .ok next)
    : next.Keeps Holds := by
  rw [Grammar.readLong] at read
  split at read
  split at read
  · rename_i switch found
    exact apply (kept.switches switch (List.mem_of_find?_eq_some found)) keeps read
  · cases read

/-- Short names are read one after the other, by induction over them. -/
theorem readShort {names : List Char} (kept : grammar.Keeps Holds) (keeps : progress.Keeps Holds)
    (read : grammar.readShort names progress = .ok next)
    : next.Keeps Holds := by
  induction names generalizing progress with
  | nil => exact Except.ok.inj read ▸ keeps
  | cons c names ih =>
      rw [Grammar.readShort] at read
      split at read
      · cases read
      · rename_i switch found
        have effect := kept.switches switch (List.mem_of_find?_eq_some found)
        split at read
        · exact apply effect keeps read
        · obtain ⟨applied, switched, read⟩ := bind_ok_iff.mp read
          exact ih (apply effect keeps switched) read

theorem readSwitch? {word : String} {reading : Usage (Progress σ)} (kept : grammar.Keeps Holds)
    (keeps : progress.Keeps Holds) (switches : grammar.readSwitch? word progress = some reading)
    (read : reading = .ok next)
    : next.Keeps Holds := by
  rw [Grammar.readSwitch?] at switches
  split at switches
  · exact kept.readLong keeps ((Option.some.inj switches).trans read)
  · cases switches
  · exact kept.readShort keeps ((Option.some.inj switches).trans read)
  · cases switches

theorem readWord {word : String} (kept : grammar.Keeps Holds) (keeps : progress.Keeps Holds)
    (read : grammar.readWord word progress = .ok next)
    : next.Keeps Holds := by
  rw [Grammar.readWord] at read
  split at read
  · obtain ⟨draft, settled, placed⟩ := bind_ok_iff.mp read
    cases placed
    exact .settled (kept.place draft word (keeps.settle settled))
  · cases read

theorem readPlain {words : List String} (kept : grammar.Keeps Holds) (keeps : progress.Keeps Holds)
    (read : grammar.readPlain words progress = .ok draft)
    : Holds draft := by
  induction words generalizing progress with
  | nil => exact keeps.settle read
  | cons word words ih =>
      obtain ⟨placed, first, read⟩ := bind_ok_iff.mp read
      exact ih (kept.readWord keeps first) read

/-- What is read has the property when what is read into has it, by induction over the words. -/
theorem read {words : List String} (kept : grammar.Keeps Holds) (keeps : progress.Keeps Holds)
    (read : grammar.read words progress = .ok draft)
    : Holds draft := by
  induction words generalizing progress with
  | nil => exact keeps.settle read
  | cons word words ih =>
      rw [Grammar.read] at read
      split at read
      · exact kept.readPlain keeps read
      · split at read
        · rename_i reading switches
          obtain ⟨switched, first, read⟩ := bind_ok_iff.mp read
          exact ih (kept.readSwitch? keeps switches first) read
        · split at read
          · rename_i given waited
            exact ih (keeps.give? waited) read
          · obtain ⟨placed, first, read⟩ := bind_ok_iff.mp read
            exact ih (kept.readWord keeps first) read

end Grammar.Keeps

-----------------------------------------------------------------------------------------
-- Numbers
-----------------------------------------------------------------------------------------

/-- Every number that was read has at most 64 bits. -/
def CompileDraft.IsBounded (draft : CompileDraft) : Prop :=
  ∀ depth ∈ draft.maxDepth, depth < Nat.pow 2 64

theorem KeepsTaking.once {α : Type} {name : String} {given : σ → Option α}
    {read? : String → Option α} {refusal : String → String → UsageError} {put : σ → α → σ}
    (keeps : ∀ draft text value, Holds draft → read? text = some value → Holds (put draft value))
    : KeepsTaking Holds (takeOnce name given read? refusal put) := by
  intro draft text next holds taken
  rw [takeOnce] at taken
  split at taken
  · cases taken
  · split at taken
    · rename_i value read
      cases taken
      exact keeps draft text value holds read
    · cases taken

theorem SwitchEffect.Keeps.flag {given : σ → Bool} {put : σ → σ}
    (keeps : ∀ draft, Holds draft → Holds (put draft))
    : (SwitchEffect.flag fun draft => if given draft then none else some (put draft)).Keeps
        Holds := by
  intro draft next holds raised
  obtain ⟨_, same⟩ := Option.ite_none_left_eq_some.mp raised
  exact Option.some.inj same ▸ keeps draft holds

theorem wordNat?_lt {text : String} {value : Nat} (read : wordNat? text = some value)
    : value < Nat.pow 2 64 := by
  simp only [wordNat?, Option.ite_none_left_eq_some, Option.ite_none_right_eq_some] at read
  obtain ⟨_, small, same⟩ := read
  exact Option.some.inj same ▸ small

/-- Only a depth that was read is put in place. -/
theorem CompileDraft.keeps_isBounded
    : CompileDraft.grammar.Keeps CompileDraft.IsBounded where
  switches := by
    simp only [CompileDraft.grammar, List.forall_mem_cons]
    refine ⟨.flag ?_, .once ?_, .once ?_, .once ?_, .once ?_, .once ?_, .flag ?_, trivial, nofun⟩
    case refine_4 =>
      intro draft text value bounded read depth same
      exact Option.some.inj same ▸ wordNat?_lt read
    all_goals intros; assumption
  place draft word bounded := bounded

/-- Only behind the name of the compile command its words are read, by induction over the words
before it.
-/
theorem Invocation.readCompile_of_read {noColor after : Bool} {words : List String}
    {command : CompileCommand}
    (accepted
      : Invocation.read noColor words = .ok { command := .compile command, noColor := after })
    : ∃ before rest,
        Invocation.readCompile before rest
        = .ok { command := .compile command, noColor := after } := by
  induction words generalizing noColor with
  | nil => cases accepted
  | cons word words ih =>
      rw [Invocation.read.eq_def] at accepted
      split at accepted
      · cases accepted
      · rename_i same
        exact ⟨noColor, _, accepted⟩
      · obtain ⟨draft, _, accepted⟩ := bind_ok_iff.mp accepted
        obtain ⟨command, _, accepted⟩ := bind_ok_iff.mp accepted
        cases accepted
      · cases accepted
      · cases accepted
      · rename_i same
        cases same
        split at accepted
        · obtain ⟨progress, _, accepted⟩ := bind_ok_iff.mp accepted
          obtain ⟨settled, _, accepted⟩ := bind_ok_iff.mp accepted
          exact ih accepted
        · cases accepted

/-- The depth of a command that is read has at most 64 bits. -/
theorem Invocation.maxDepth_lt {words : List String} {command : CompileCommand} {noColor : Bool}
    (accepted : Invocation.ofWords words = .ok { command := .compile command, noColor })
    : ∀ depth ∈ command.maxDepth, depth < Nat.pow 2 64 := by
  obtain ⟨before, rest, accepted⟩ := readCompile_of_read accepted
  obtain ⟨draft, read, accepted⟩ := bind_ok_iff.mp accepted
  obtain ⟨found, made, accepted⟩ := bind_ok_iff.mp accepted
  have bounded : draft.IsBounded :=
    CompileDraft.keeps_isBounded.read
      (.settled fun _ absent => (Option.not_mem_none _ absent).elim) read
  cases accepted
  rw [CompileDraft.command] at made
  split at made
  · cases made
  · cases made
    exact bounded

theorem readDigits_toDigits (n : Nat) : readDigits 0 (Nat.toDigits 10 n) = n := by
  have same : readDigits 0 (Nat.toDigits 10 n) = Nat.ofDigitChars 10 (Nat.toDigits 10 n) 0 := by
    simp only [readDigits, Nat.ofDigitChars, digitValue, Nat.mul_comm]
  rw [same, Nat.ofDigitChars_toDigits (by decide) (by decide)]

/-- A number of at most 64 bits is read back. -/
theorem wordNat?_toString {n : Nat} (small : n < Nat.pow 2 64)
    : wordNat? (toString n) = some n := by
  have spelled : (toString n).toList = Nat.toDigits 10 n := Nat.toList_repr
  have digits : ∀ c ∈ Nat.toDigits 10 n, c.isDigit = true := fun c member =>
    Nat.isDigit_of_mem_toDigits (by decide) (by decide) member
  have unsigned (rest : List Char) : Nat.toDigits 10 n ≠ '+' :: rest := by
    intro same
    have plus := digits '+' (same ▸ List.mem_cons_self)
    cases plus
  have isNumber
      : ¬ ((Nat.toDigits 10 n).isEmpty || !(Nat.toDigits 10 n).all Char.isDigit) = true := by
    simp [List.all_eq_true.mpr digits, Nat.toDigits_ne_nil]
  rw [wordNat?, spelled]
  split
  · rename_i rest plus
    exact (unsigned rest plus).elim
  · rw [if_neg isNumber, readDigits_toDigits, if_pos small]

-----------------------------------------------------------------------------------------
-- Commands that are spelled
-----------------------------------------------------------------------------------------

/-- A switch with its value behind an equals sign. -/
def spelled (name value : String) : String :=
  "--" ++ name ++ "=" ++ value

namespace Grammar

theorem splitLong_spelled {name : String} (plain : '=' ∉ name.toList) (value : String)
    : splitLong (name.toList ++ '=' :: value.toList) = (name, some value) := by
  have before : ∀ c ∈ name.toList, (c != '=') = true := fun c member =>
    bne_iff_ne.mpr fun same => plain (same ▸ member)
  rw [splitLong, List.dropWhile_append_of_pos before, List.takeWhile_append_of_pos before]
  simp

/-- A value behind an equals sign is taken at once. -/
theorem read_spelled (grammar : Grammar σ) (name : String) {value : String} {switch : Switch σ}
    {take : σ → String → Usage σ} {taken : σ} {rest : List String}
    (found : grammar.switches.find? (·.long == name) = some switch)
    (effect : switch.effect = .value take) (plain : '=' ∉ name.toList)
    (took : take draft value = .ok taken)
    : grammar.read (spelled name value :: rest) (.settled draft)
      = grammar.read rest (.settled taken) := by
  have letters
      : (spelled name value).toList = '-' :: '-' :: (name.toList ++ '=' :: value.toList) := by
    simp [spelled]
  have longer : spelled name value ≠ "--" := by
    intro same
    rw [same] at letters
    simp at letters
  have settled : (Progress.settled draft).settle = .ok draft := rfl
  rw [read, if_neg longer, readSwitch?, letters]
  simp only [readLong, splitLong_spelled plain, found, apply, effect, settled, bind, Except.bind,
    took]
  rfl

/-- A value that may be missing is taken if it is there. -/
theorem read_optional {α : Type} (grammar : Grammar σ) (name : String) (given : Option α)
    (word : α → String) (put : Option α → σ) {switch : Switch σ} {take : σ → String → Usage σ}
    {rest : List String} (found : grammar.switches.find? (·.long == name) = some switch)
    (effect : switch.effect = .value take) (plain : '=' ∉ name.toList)
    (took : ∀ value ∈ given, take (put none) (word value) = .ok (put (some value)))
    : grammar.read ((given.map fun value => spelled name (word value)).toList ++ rest)
          (.settled (put none))
      = grammar.read rest (.settled (put given)) := by
  cases given with
  | none => rfl
  | some value => exact grammar.read_spelled name found effect plain (took value rfl)

/-- After two dashes alone a word is put in place, whatever it looks like. -/
theorem read_last (grammar : Grammar σ) (word : String) (draft : σ)
    (room : grammar.hasRoom draft = true)
    : grammar.read ["--", word] (.settled draft) = .ok (grammar.place draft word) := by
  rw [read, if_pos rfl, readPlain, readWord]
  simp only [Progress.settled, room]
  rfl

end Grammar

namespace CompileCommand

/-- The switches that spell the options and the output of a command. -/
def switches (command : CompileCommand) : List String :=
  (command.level.map fun level => spelled "validate" level.name).toList
    ++ (command.locale.map fun locale => spelled "locale" locale).toList
    ++ (command.maxDepth.map fun depth => spelled "max-depth" (toString depth)).toList
    ++ (command.config.map fun config => spelled "config" config).toList
    ++ spelled "format" command.format.name
    :: if command.isCheck then ["--check"] else []

/-- The words that spell a command, behind the name of the program. -/
def words (command : CompileCommand) : List String :=
  "compile" :: (command.switches ++ ["--", command.file])

/-- A command is read back from the words that spell it, switch by switch. -/
theorem read_words (command : CompileCommand)
    (bounded : ∀ depth ∈ command.maxDepth, depth < Nat.pow 2 64)
    : CompileDraft.grammar.read (command.switches ++ ["--", command.file]) (.settled {})
      = .ok {
        file := some command.file
        level := command.level
        locale := command.locale
        maxDepth := command.maxDepth
        config := command.config
        format := some command.format
        isCheck := command.isCheck } := by
  rcases command with ⟨file, level, locale, maxDepth, config, format, isCheck⟩
  simp only [switches, List.append_assoc]
  let grammar := CompileDraft.grammar
  refine (grammar.read_optional "validate" level Level.name (fun level => { level })
    rfl rfl (by decide) ?level).trans ?_
  case level => rintro (_ | _ | _) _ <;> rfl
  refine (grammar.read_optional "locale" locale id (fun locale => { level, locale })
    rfl rfl (by decide) ?locale).trans ?_
  case locale => exact fun locale _ => rfl
  refine (grammar.read_optional "max-depth" maxDepth toString
    (fun maxDepth => { level, locale, maxDepth }) rfl rfl (by decide) ?maxDepth).trans ?_
  case maxDepth =>
    intro depth given
    rw [takeOnce, wordNat?_toString (bounded depth given)]
    rfl
  refine (grammar.read_optional "config" config id
    (fun config => { level, locale, maxDepth, config }) rfl rfl (by decide) ?config).trans ?_
  case config => exact fun config _ => rfl
  have chosen
      : takeOnce "format" CompileDraft.format Format.ofName? .badChoice
            (fun draft format => { draft with format := some format })
            { level, locale, maxDepth, config } format.name
        = .ok { level, locale, maxDepth, config, format := some format } := by
    cases format <;> rfl
  refine (grammar.read_spelled "format" rfl rfl (by decide) chosen).trans ?_
  have last (isCheck : Bool) :=
    grammar.read_last file { level, locale, maxDepth, config, format := some format, isCheck } rfl
  cases isCheck with
  | false => exact last false
  | true => exact last true

/-- Every command is read from the words that spell it, whatever the name of the program. -/
theorem ofWords_words (command : CompileCommand) (program : String)
    (bounded : ∀ depth ∈ command.maxDepth, depth < Nat.pow 2 64)
    : Invocation.ofWords (withDefaultCommand (program :: command.words))
      = .ok { command := .compile command, noColor := false } := by
  have first : command.words.find? isBare = some "compile" := rfl
  have named : "compile" ∈ commandWords := by decide
  rw [withDefaultCommand_of_named first named]
  change Invocation.readCompile false _ = _
  rw [Invocation.readCompile, command.read_words bounded]
  rfl

end CompileCommand

/-- The command with another form of output. -/
def CompileCommand.withOutput (command : CompileCommand) (format : Format) (isCheck : Bool)
    : CompileCommand :=
  { command with format, isCheck }

/-- The words of a command line are read as the command. -/
def CompileCommand.IsReadFrom (command : CompileCommand) (words : List String) : Prop :=
  ∃ noColor,
    Invocation.ofWords (withDefaultCommand words)
    = .ok { command := .compile command, noColor }

/-- A command that is read can be spelled with every form of output. -/
theorem CompileCommand.IsReadFrom.withOutput {command : CompileCommand} {words : List String}
    (accepted : command.IsReadFrom words) (format : Format) (isCheck : Bool)
    : ∃ others, (command.withOutput format isCheck).IsReadFrom others := by
  obtain ⟨noColor, accepted⟩ := accepted
  have bounded : ∀ depth ∈ command.maxDepth, depth < Nat.pow 2 64 :=
    Invocation.maxDepth_lt accepted
  exact ⟨_, false, (command.withOutput format isCheck).ofWords_words "card" bounded⟩

end MessageCard
