import MessageCard.Proofs.DocumentRun
import MessageCard.Proofs.SettingRelation
import MessageCard.Proofs.ValidatorCalls

/-! Compilations as calls to a validator.  A value is read as what it should be or as its first
fault; asserting the checks of its place, in order, comes to the same.  What a whole compilation
records, and what ends it, is what a validator is left with and answers when it is called once for
each fault, each deferred tag, and each tag or level that ends a compilation.
-/

namespace MessageCard

open Validator

-----------------------------------------------------------------------------------------
-- Asserted checks and faults
-----------------------------------------------------------------------------------------

namespace Setting

/-- A part that goes on if all checks hold; else it ends as the verdict on them says. -/
def ensureAll (setting : Setting) (checks : List (Bool × String)) (path : Path) : Trace Unit :=
  let (verdict, validator) :=
    (Validator.new setting.options.level setting.sourceId).assertAll checks path
  { recorded := validator.diagnostics,
    outcome :=
      match verdict with
      | .ok true => .done ()
      | .ok false => .dropped
      | .error fatal => .aborted fatal }

variable {checks : List (Bool × String)} {path : Path}

theorem ensureAll_of_held (setting : Setting) (held : firstFailure checks path = none)
    : setting.ensureAll checks path = .done () := by
  rw [ensureAll, assertAll_eq, held]
  rfl

/-- Checks of which the first failing one is that of a fault come to the fault, at each level. -/
theorem ensureAll_of_failure (setting : Setting) {fault : Fault}
    (failed : firstFailure checks path = some (fault.message, path))
    : setting.ensureAll checks path = setting.fault fault path := by
  rw [ensureAll, assertAll_eq, failed, Setting.fault]
  cases level : setting.options.level with
  | off => rfl
  | warning => rfl
  | error => rfl

end Setting

/-- The checks of an image. -/
def Image.checks (fields : Fields) : List (Bool × String) :=
  [((Json.stringField? fields "img_key").isSome, Fault.imageKeyMissing.message),
    ((Json.truthyField? fields "alt").isSome, Fault.imageAltMissing.message)]

/-- Reading an image finds the fault that asserting its checks comes to. -/
theorem Image.ensureAll_checks (setting : Setting) (fields : Fields) (path : Path)
    : setting.ensureAll (Image.checks fields) path
      = match Image.ofFields fields with
        | .error fault => setting.fault fault path
        | .ok _ => .done () := by
  cases key : Json.stringField? fields "img_key" with
  | none =>
      rw [Image.ofFields, key]
      exact setting.ensureAll_of_failure (by rw [Image.checks, key]; rfl)
  | some name =>
      cases alt : Json.truthyField? fields "alt" with
      | none =>
          rw [Image.ofFields, key, alt]
          exact setting.ensureAll_of_failure (by rw [Image.checks, key, alt]; rfl)
      | some text =>
          rw [Image.ofFields, key, alt]
          exact setting.ensureAll_of_held (by rw [Image.checks, key, alt]; rfl)

/-- The checks of a title. -/
def Header.titleChecks (title : Fields) : List (Bool × String) :=
  let tag := (Json.field? title "tag").bind Json.string?
  [(tag.isSome, Fault.titleTagMissing.message),
    (tag == some "plain_text", Fault.titleNotPlain.message),
    ((LocalizedText.ofFields title).isPopulated, Fault.titleEmpty.message)]

/-- Reading a title finds the fault that asserting its checks comes to, cases on its tag. -/
theorem Header.ensureAll_titleChecks (setting : Setting) (template : Template) (title : Fields)
    : setting.ensureAll (Header.titleChecks title) Path.header
      = match Header.withTitle template title with
        | .faulty fault => setting.fault fault Path.header
        | .titled _ _ => .done () := by
  cases tag : (Json.field? title "tag").bind Json.string? with
  | none =>
      rw [withTitle, tag]
      exact setting.ensureAll_of_failure (by rw [titleChecks, tag]; rfl)
  | some name =>
      by_cases plain : name = "plain_text"
      · subst plain
        cases populated : (LocalizedText.ofFields title).isPopulated with
        | false =>
            simp only [withTitle, tag, populated]
            exact setting.ensureAll_of_failure (by rw [titleChecks, tag, populated]; rfl)
        | true =>
            simp only [withTitle, tag, populated]
            exact setting.ensureAll_of_held (by rw [titleChecks, tag, populated]; rfl)
      · simp only [withTitle, tag, bne_iff_ne, ne_eq, plain, not_false_eq_true, if_true]
        refine setting.ensureAll_of_failure ?_
        simp [titleChecks, tag, plain, firstFailure]

-----------------------------------------------------------------------------------------
-- Calls that leave a trace
-----------------------------------------------------------------------------------------

/-- The fatal report that a call is answered with, if it is. -/
def Validator.Answer.fatal? : Answer → Option Diagnostic
  | .checked _ => none
  | .asserted (.ok _) => none
  | .asserted (.error fatal) => some fatal
  | .noted => none
  | .built fatal => some fatal

/-- The calls that a compilation makes: to assert the check that a fault breaks, to note a deferred
tag, and to end the compilation at an unknown tag or a level too deep.
-/
inductive Validator.Call.IsMade (limit : Nat) : Call → Prop
  | fault (fault : Fault) (path : Path) : IsMade limit (.assert false fault.message path)
  | deferred (tag : ElementTag) (path : Path)
    : IsMade limit (.notice (.notImplemented tag.name) path)
  | unknown (field : TagField) (tag allowed : String) (path : Path)
    : IsMade limit (.fatal (.unknownTag field tag allowed) path)
  | deep (path : Path) : IsMade limit (.fatal (.depthExceeded limit) path)

/-- The call is not answered with a fatal report. -/
def Validator.Call.Passes (level : Level) (sourceId : Nat) (call : Call) : Prop :=
  (call.answer level sourceId).fatal? = none

namespace Trace

variable {α β : Type} {level : Level} {sourceId limit : Nat}

/-- The trace is what calls leave.  Their reports are recorded, in order, and none of them is
answered with a fatal report but the last one, if that ends the compilation.
-/
inductive LeftBy (level : Level) (sourceId limit : Nat) (trace : Trace α) : List Call → Prop
  | running {calls : List Call} (made : ∀ call ∈ calls, call.IsMade limit)
    (passes : ∀ call ∈ calls, call.Passes level sourceId) (runs : trace.Runs)
    (recorded : trace.recorded = calls.flatMap (Call.reports level sourceId))
    : LeftBy level sourceId limit trace calls
  | ended {calls : List Call} {last : Call} {fatal : Diagnostic}
    (made : ∀ call ∈ calls, call.IsMade limit) (lastMade : last.IsMade limit)
    (passes : ∀ call ∈ calls, call.Passes level sourceId)
    (answered : (last.answer level sourceId).fatal? = some fatal)
    (aborted : trace.outcome = .aborted fatal)
    (recorded : trace.recorded = calls.flatMap (Call.reports level sourceId))
    : LeftBy level sourceId limit trace (calls ++ [last])

theorem LeftBy.of_done (result : α) : (done result).LeftBy level sourceId limit [] :=
  .running (fun _ member => nomatch member) (fun _ member => nomatch member)
    (fun _ ended => nomatch ended) rfl

/-- One call that is not answered with a fatal report drops a part, if its reports are recorded. -/
theorem LeftBy.of_dropped {call : Call} {reports : List Diagnostic} (made : call.IsMade limit)
    (passes : call.Passes level sourceId)
    (left : call.reports level sourceId = reports)
    : (dropped reports : Trace α).LeftBy level sourceId limit [call] := by
  refine .running ?_ ?_ (fun _ ended => nomatch ended) ?_
  · exact List.forall_mem_singleton.mpr made
  · exact List.forall_mem_singleton.mpr passes
  · rw [List.flatMap_singleton, left]
    rfl

/-- One call that is answered with a fatal report ends the compilation. -/
theorem LeftBy.of_aborted {call : Call} {fatal : Diagnostic} (made : call.IsMade limit)
    (answered : (call.answer level sourceId).fatal? = some fatal)
    : (aborted fatal : Trace α).LeftBy level sourceId limit [call] := by
  rw [← List.nil_append [call]]
  exact .ended (fun _ member => nomatch member) made (fun _ member => nomatch member) answered
    rfl rfl

/-- Calls that pass may be made before those that leave a trace; cases on how it ends. -/
theorem LeftBy.after {trace : Trace α} {earlier calls : List Call}
    (left : trace.LeftBy level sourceId limit calls)
    (made : ∀ call ∈ earlier, call.IsMade limit)
    (passes : ∀ call ∈ earlier, call.Passes level sourceId)
    : (after (earlier.flatMap (Call.reports level sourceId)) trace).LeftBy level sourceId limit
        (earlier ++ calls) := by
  cases left with
  | running laterMade laterPasses runs recorded =>
      refine .running ?_ ?_ runs ?_
      · exact List.forall_mem_append.mpr ⟨made, laterMade⟩
      · exact List.forall_mem_append.mpr ⟨passes, laterPasses⟩
      · rw [List.flatMap_append, ← recorded]
        rfl
  | ended laterMade lastMade laterPasses answered aborted recorded =>
      rw [← List.append_assoc]
      refine .ended ?_ lastMade ?_ answered aborted ?_
      · exact List.forall_mem_append.mpr ⟨made, laterMade⟩
      · exact List.forall_mem_append.mpr ⟨passes, laterPasses⟩
      · rw [List.flatMap_append, ← recorded]
        rfl

/-- Calls leave a trace also if it is only its result that is another. -/
theorem LeftBy.of_same {trace : Trace α} {other : Trace β} {calls : List Call}
    (left : trace.LeftBy level sourceId limit calls) (recorded : other.recorded = trace.recorded)
    (aborts : ∀ fatal, other.outcome = .aborted fatal ↔ trace.outcome = .aborted fatal)
    : other.LeftBy level sourceId limit calls := by
  cases left with
  | running made passes runs left =>
      exact .running made passes (fun fatal ended => runs fatal ((aborts fatal).mp ended))
        (recorded.trans left)
  | ended made lastMade passes answered aborted left =>
      exact .ended made lastMade passes answered ((aborts _).mpr aborted) (recorded.trans left)

/-- Some calls leave the trace. -/
def IsLeft (level : Level) (sourceId limit : Nat) (trace : Trace α) : Prop :=
  ∃ calls, trace.LeftBy level sourceId limit calls

/-- A sequence is left by the calls of both its parts; cases on how the first ends. -/
theorem IsLeft.andThen {trace : Trace α} {next : α → Trace β}
    (first : trace.IsLeft level sourceId limit)
    (second : ∀ result, (next result).IsLeft level sourceId limit)
    : (trace.andThen next).IsLeft level sourceId limit := by
  obtain ⟨calls, left⟩ := first
  rcases trace with ⟨reports, outcome⟩
  cases outcome with
  | done result =>
      obtain ⟨more, later⟩ := second result
      cases left with
      | running made passes runs recorded =>
          refine ⟨calls ++ more, ?_⟩
          have whole := later.after made passes
          rwa [← recorded] at whole
      | ended _ _ _ _ aborted _ => cases aborted
  | dropped => exact ⟨calls, left.of_same rfl fun _ => ⟨nofun, nofun⟩⟩
  | aborted fatal =>
      refine ⟨calls, left.of_same rfl fun other => ?_⟩
      simp [Trace.andThen]

theorem IsLeft.optional {trace : Trace α} (left : trace.IsLeft level sourceId limit)
    : trace.optional.IsLeft level sourceId limit := by
  obtain ⟨calls, left⟩ := left
  refine ⟨calls, left.of_same trace.optional_recorded fun fatal => ?_⟩
  rcases trace with ⟨reports, outcome⟩
  cases outcome <;> simp [Trace.optional]

/-- That calls leave the trace survives every way in which traces are put together. -/
theorem isLeft_relation
    : TraceRelation fun _ trace _ => trace.IsLeft level sourceId limit where
  done result := ⟨[], .of_done result⟩
  andThen first second := first.andThen second
  optional left := left.optional

end Trace

-----------------------------------------------------------------------------------------
-- Compilations as calls
-----------------------------------------------------------------------------------------

namespace Setting

variable {α : Type} (setting : Setting) (path : Path)

/-- A fault is left by the call that asserts its check; at the level of errors it is the last. -/
theorem fault_isLeft (fault : Fault)
    : (setting.fault fault path : Trace α).IsLeft setting.options.level setting.sourceId
        setting.options.maxDepth := by
  refine ⟨[.assert false fault.message path], ?_⟩
  rw [Setting.fault]
  cases setting.options.level with
  | off => exact .of_dropped (.fault fault path) rfl rfl
  | warning => exact .of_dropped (.fault fault path) rfl rfl
  | error => exact .of_aborted (.fault fault path) rfl

/-- What a compilation makes of a fault, a tag or a level is left by one call. -/
theorem isLeft_relation
    : SettingRelation
        (fun _ trace _ => trace.IsLeft setting.options.level setting.sourceId
          setting.options.maxDepth)
        setting setting where
  locale := rfl
  fault fault path := setting.fault_isLeft path fault
  defer tag path := ⟨_, .of_dropped (.deferred tag path) rfl rfl⟩
  unknown field tag allowed path := ⟨_, .of_aborted (.unknown field tag allowed path) rfl⟩
  atLevel path level _ _ left := by
    rw [atLevel]
    split
    · exact ⟨_, .of_aborted (.deep path) rfl⟩
    · exact left

end Setting

/-- The validator that a compilation starts with. -/
def Document.validator (document : Document) (options : Options) : Validator :=
  Validator.new options.level document.sourceId

/-- A compilation is a sequence of calls to its validator.  Where it succeeds, none of them is
answered with a fatal report, and its warnings are what is on record in the end; where it fails, it
does so with the fatal report that the last of them is answered with, and the others are not.
-/
theorem Document.compile_validated (document : Document) (options : Options)
    : ∃ calls : List Call,
        (∀ call ∈ calls, call.IsMade options.maxDepth)
        ∧ match document.compile options with
          | .ok compilation =>
              (∀ answer ∈ ((document.validator options).callAll calls).1, answer.fatal? = none)
              ∧ ((document.validator options).callAll calls).2.diagnostics = compilation.warnings
          | .error fatal =>
              ∃ before last,
                calls = before ++ [last]
                ∧ (∀ answer ∈ ((document.validator options).callAll before).1,
                    answer.fatal? = none)
                ∧ (((document.validator options).callAll before).2.call last).1.fatal?
                  = some fatal := by
  obtain ⟨calls, left⟩ := Card.compile_related Trace.isLeft_relation
    (document.setting options).isLeft_relation (Card.ofDocument document)
  have answered (calls : List Call)
      (passes : ∀ call ∈ calls, call.Passes options.level document.sourceId)
      : ∀ answer ∈ ((document.validator options).callAll calls).1, answer.fatal? = none := by
    rw [callAll_eq]
    exact List.forall_mem_map.mpr passes
  refine ⟨calls, ?_⟩
  cases left with
  | running made passes runs recorded =>
      obtain ⟨tree, ended⟩ := Trace.done_of_runs runs (Card.compile_not_dropped _ _)
      have compiled : document.compile options
          = .ok { tree, warnings := (document.trace options).recorded } :=
        Document.compile_ok_iff_trace.mpr ⟨ended, rfl⟩
      rw [compiled]
      refine ⟨made, answered _ passes, ?_⟩
      rw [callAll_eq]
      exact recorded.symm
  | @ended before last fatal made lastMade passes final aborted _ =>
      have failed : document.compile options = .error fatal :=
        Document.compile_error_iff_trace.mpr aborted
      rw [failed]
      refine ⟨?_, before, last, rfl, answered _ passes, ?_⟩
      · exact List.forall_mem_append.mpr ⟨made, List.forall_mem_singleton.mpr lastMade⟩
      · rw [callAll_eq, call_eq]
        exact final

end MessageCard
