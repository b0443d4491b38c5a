import Mathlib.Data.List.TakeWhile
import MessageCard.Proofs.DocumentRun
import MessageCard.Proofs.SettingRelation

/-! The strict level stops where the lenient level first reports a violation.  Cutting a trace
at its first violation commutes with every way of putting traces together, so the strict
compilation of a card is the lenient one, cut.
-/

namespace MessageCard

/-- Whether the report is about a breach of a contract. -/
def Diagnostic.isViolation (report : Diagnostic) : Bool :=
  match report.cause with
  | .schemaViolation _ => true
  | _ => false

/-- The report as one that ends the compilation; its cause, place and source stay. -/
def Diagnostic.asFatal (report : Diagnostic) : Diagnostic :=
  { report with isWarning := false }

namespace Trace

variable {α β : Type}

/-- What has been reported when the trace stops: the recorded reports, then the fatal one. -/
def reports (trace : Trace α) : List Diagnostic :=
  match trace.outcome with
  | .aborted fatal => trace.recorded ++ [fatal]
  | _ => trace.recorded

/-- The first violation that is reported, if there is one. -/
def firstViolation? (trace : Trace α) : Option Diagnostic :=
  trace.reports.find? Diagnostic.isViolation

/-- The trace cut at its first violation, which becomes fatal. -/
def cut (trace : Trace α) : Trace α :=
  match trace.firstViolation? with
  | none => trace
  | some first =>
      { recorded := trace.recorded.takeWhile (!·.isViolation),
        outcome := .aborted first.asFatal }

-----------------------------------------------------------------------------------------
-- Cutting commutes with putting traces together
-----------------------------------------------------------------------------------------

/-- Reports recorded before come before the reports of the trace, by cases on the outcome. -/
theorem after_reports (earlier : List Diagnostic) (trace : Trace α)
    : (after earlier trace).reports = earlier ++ trace.reports := by
  rcases trace with ⟨recorded, outcome⟩
  cases outcome <;> simp [after, reports]

/-- A violation among the earlier reports is the first one, whatever follows. -/
theorem after_cut_of_some {earlier : List Diagnostic} {first : Diagnostic}
    (trace : Trace α) (found : earlier.find? Diagnostic.isViolation = some first)
    : (after earlier trace).cut
      = { recorded := earlier.takeWhile (!·.isViolation),
          outcome := .aborted first.asFatal } := by
  have stops : ¬ (earlier.takeWhile (!·.isViolation)).length = earlier.length := by
    intro whole
    have member := List.mem_of_find?_eq_some found
    rw [← (List.takeWhile_prefix _).eq_of_length whole] at member
    have violation := List.find?_some found
    simpa [violation] using List.mem_takeWhile_imp member
  have seen : (after earlier trace).firstViolation? = some first := by
    simp only [firstViolation?, after_reports, List.find?_append, found, Option.some_or]
  rw [cut, seen]
  simp only [after, List.takeWhile_append, stops, if_false]

/-- Earlier reports without a violation stay in front when the trace is cut. -/
theorem after_cut_of_none {earlier : List Diagnostic} (trace : Trace α)
    (clean : earlier.find? Diagnostic.isViolation = none)
    : (after earlier trace).cut = after earlier trace.cut := by
  have passes : earlier.takeWhile (!·.isViolation) = earlier := by
    simpa [List.takeWhile_eq_self_iff] using clean
  have same : (after earlier trace).firstViolation? = trace.firstViolation? := by
    simp only [firstViolation?, after_reports, List.find?_append, clean, Option.none_or]
  rw [cut, same, cut]
  cases trace.firstViolation? with
  | none => rfl
  | some first => simp only [after, List.takeWhile_append, passes, if_true]

/-- Cutting a sequence cuts both of its parts; cases on how the first part ends. -/
theorem andThen_cut (trace : Trace α) (next : α → Trace β)
    : (trace.andThen next).cut = trace.cut.andThen (fun result => (next result).cut) := by
  rcases trace with ⟨recorded, outcome⟩
  cases outcome with
  | done result =>
      have split : Trace.andThen ⟨recorded, .done result⟩ next = after recorded (next result) :=
        rfl
      cases found : recorded.find? Diagnostic.isViolation with
      | none =>
          have kept : cut ⟨recorded, .done result⟩ = ⟨recorded, .done result⟩ := by
            simp only [cut, firstViolation?, reports, found]
          rw [split, after_cut_of_none _ found, kept]
          rfl
      | some first =>
          rw [split, after_cut_of_some _ found]
          simp only [cut, firstViolation?, reports, found, andThen]
  | dropped =>
      simp only [cut, firstViolation?, reports, andThen]
      split <;> rfl
  | aborted fatal =>
      simp only [cut, firstViolation?, reports, andThen]
      split <;> rfl

/-- Cutting a part that may be dropped, by cases on how it ends and on its reports. -/
theorem optional_cut (trace : Trace α) : trace.optional.cut = trace.cut.optional := by
  rcases trace with ⟨recorded, outcome⟩
  cases outcome <;>
    · simp only [cut, firstViolation?, reports, optional]
      split <;> rfl

/-- Being the cut trace survives every way of putting traces together. -/
theorem cut_relation
    : TraceRelation (fun _ lenient strict => lenient.cut = strict) where
  done _ := rfl
  andThen first second := by
    rw [andThen_cut, first, funext second]
  optional related := by
    rw [optional_cut, related]

end Trace

-----------------------------------------------------------------------------------------
-- The strict compilation is the lenient one, cut
-----------------------------------------------------------------------------------------

/-- A fault, recorded by the lenient level, is fatal for the strict one; nothing else differs
between the two levels.
-/
theorem Setting.cut_related (locale : Option String) (maxDepth sourceId : Nat)
    : SettingRelation (fun _ lenient strict => lenient.cut = strict)
        { options := { level := .warning, locale, maxDepth }, sourceId }
        { options := { level := .error, locale, maxDepth }, sourceId } where
  locale := rfl
  fault _ _ := rfl
  defer _ _ := rfl
  unknown _ _ _ _ := rfl
  atLevel path level below other related := by
    simp only [atLevel]
    split
    · rfl
    · exact related

namespace Document

/-- The reports of a document: all that is recorded while it is compiled with the options, up
to the point where the compilation stops, and the fatal report if it does not get to its end.
-/
def reports (document : Document) (options : Options) : List Diagnostic :=
  (document.trace options).reports

/-- The warnings of a compilation that succeeds are all of its reports. -/
theorem reports_of_ok {document : Document} {options : Options} {compilation : Compilation}
    (compiled : document.compile options = .ok compilation)
    : document.reports options = compilation.warnings := by
  obtain ⟨ended, recorded⟩ := compile_ok_iff_trace.mp compiled
  simp only [reports, Trace.reports, ended, recorded]

/-- The strict run of a document is the lenient one, cut at its first violation. -/
theorem trace_error_eq_cut (document : Document) (locale : Option String) (maxDepth : Nat)
    : document.trace { level := .error, locale, maxDepth }
      = (document.trace { level := .warning, locale, maxDepth }).cut :=
  ((Card.ofDocument document).compile_related Trace.cut_relation
    (Setting.cut_related locale maxDepth document.sourceId)).symm

/-- Without a violation among the reports, the strict level comes to what the lenient one comes
to; otherwise it fails with the first violation, which becomes fatal.
-/
theorem compile_error_eq (document : Document) (locale : Option String) (maxDepth : Nat)
    : document.compile { level := .error, locale, maxDepth }
      = match (document.reports { level := .warning, locale, maxDepth }).find?
            Diagnostic.isViolation with
        | none => document.compile { level := .warning, locale, maxDepth }
        | some first => .error first.asFatal := by
  have strict : document.compile { level := .error, locale, maxDepth }
      = (document.trace { level := .warning, locale, maxDepth }).cut.compilation := by
    rw [← trace_error_eq_cut]
    rfl
  have first : (document.reports { level := .warning, locale, maxDepth }).find?
        Diagnostic.isViolation
      = (document.trace { level := .warning, locale, maxDepth }).firstViolation? :=
    rfl
  rw [strict, first, Trace.cut]
  cases (document.trace { level := .warning, locale, maxDepth }).firstViolation? with
  | none => rfl
  | some violation => rfl

/-- The strict level fails first where the lenient level reports its first violation: with that
violation as its fatal report, or, where none is reported, with the outcome of the lenient level.
So it succeeds exactly where the lenient level does and warns of no violation.
-/
theorem compile_error_first_violation (document : Document) (locale : Option String)
    (maxDepth : Nat)
    : (document.compile { level := .error, locale, maxDepth }
        = match (document.reports { level := .warning, locale, maxDepth }).find?
              Diagnostic.isViolation with
          | none => document.compile { level := .warning, locale, maxDepth }
          | some first => .error first.asFatal)
      ∧ ((∃ compilation,
            document.compile { level := .error, locale, maxDepth } = .ok compilation)
          ↔ ∃ compilation,
              document.compile { level := .warning, locale, maxDepth } = .ok compilation
              ∧ ∀ report ∈ compilation.warnings, report.isViolation = false) := by
  have strict := document.compile_error_eq locale maxDepth
  refine ⟨strict, ?_⟩
  rw [strict]
  constructor
  · rintro ⟨compilation, compiled⟩
    cases found : (document.reports { level := .warning, locale, maxDepth }).find?
        Diagnostic.isViolation with
    | none =>
        rw [found] at compiled
        refine ⟨compilation, compiled, ?_⟩
        rw [reports_of_ok compiled] at found
        simpa using found
    | some first => simp [found] at compiled
  · rintro ⟨compilation, compiled, clean⟩
    have none : (document.reports { level := .warning, locale, maxDepth }).find?
        Diagnostic.isViolation = none := by
      simpa [reports_of_ok compiled] using clean
    rw [none]
    exact ⟨compilation, compiled⟩

end Document

end MessageCard
