import MessageCard.Proofs.DocumentRun
import MessageCard.Proofs.SettingRelation

/-! The silent level runs the lenient compilation.  Both levels drop the same parts, and only the
lenient one says so; notices are recorded by both.  Keeping the notices alone commutes with every
way of putting traces together, so the silent run of a card is the lenient one, hushed.
-/

namespace MessageCard

/-- Whether the report is about a known tag that yields no output. -/
def Diagnostic.isNotice (report : Diagnostic) : Bool :=
  match report.cause with
  | .notImplemented _ => true
  | _ => false

namespace Trace

variable {α β : Type}

/-- The trace with its notices alone; it ends as before. -/
def hushed (trace : Trace α) : Trace α :=
  { trace with recorded := trace.recorded.filter Diagnostic.isNotice }

/-- Hushing a sequence hushes both of its parts, since a filter splits over appended reports. -/
theorem andThen_hushed (trace : Trace α) (next : α → Trace β)
    : (trace.andThen next).hushed
      = trace.hushed.andThen (fun result => (next result).hushed) := by
  rcases trace with ⟨recorded, outcome⟩
  cases outcome with
  | done result => simp only [andThen, after, hushed, List.filter_append]
  | dropped => rfl
  | aborted fatal => rfl

theorem optional_hushed (trace : Trace α)
    : trace.optional.hushed = trace.hushed.optional := by
  rcases trace with ⟨recorded, outcome⟩
  cases outcome <;> rfl

theorem hushed_relation
    : TraceRelation (fun _ lenient silent => lenient.hushed = silent) where
  done _ := rfl
  andThen first second := by
    rw [andThen_hushed, first, funext second]
  optional related := by
    rw [optional_hushed, related]

end Trace

/-- A fault is recorded by the lenient level and not by the silent one; nothing else differs between
the two levels.
-/
theorem Setting.hushed_related (locale : Option String) (maxDepth sourceId : Nat)
    : SettingRelation (fun _ lenient silent => lenient.hushed = silent)
        { options := { level := .warning, locale, maxDepth }, sourceId }
        { options := { level := .off, locale, maxDepth }, sourceId } where
  locale := rfl
  fault _ _ := rfl
  defer _ _ := rfl
  unknown _ _ _ _ := rfl
  atLevel path level below other related := by
    simp only [atLevel]
    split
    · rfl
    · exact related

theorem Document.trace_off_eq_hushed (document : Document) (locale : Option String)
    (maxDepth : Nat)
    : document.trace { level := .off, locale, maxDepth }
      = (document.trace { level := .warning, locale, maxDepth }).hushed :=
  ((Card.ofDocument document).compile_related Trace.hushed_relation
    (Setting.hushed_related locale maxDepth document.sourceId)).symm

/-- The silent level comes to what the lenient one comes to.  It succeeds exactly where the lenient
level does, with the same tree and the notices among its warnings, in their order; and it fails
with the same report.
-/
theorem Document.compile_off_eq_warning (document : Document) (locale : Option String)
    (maxDepth : Nat)
    : document.compile { level := .off, locale, maxDepth }
      = match document.compile { level := .warning, locale, maxDepth } with
        | .ok compilation =>
            .ok
              { tree := compilation.tree
                warnings := compilation.warnings.filter Diagnostic.isNotice }
        | .error fatal => .error fatal := by
  have silent := document.trace_off_eq_hushed locale maxDepth
  cases lenient : document.compile { level := .warning, locale, maxDepth } with
  | ok compilation =>
      obtain ⟨ended, recorded⟩ := compile_ok_iff_trace.mp lenient
      refine compile_ok_iff_trace.mpr ⟨?_, ?_⟩
      · rw [silent]
        exact ended
      · rw [silent, Trace.hushed, recorded]
  | error fatal =>
      have ended := compile_error_iff_trace.mp lenient
      refine compile_error_iff_trace.mpr ?_
      rw [silent]
      exact ended

end MessageCard
