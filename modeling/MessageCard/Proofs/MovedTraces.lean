import MessageCard.Proofs.SettingRelation

/-! Compiling one part of a card at two places.  What the part comes to does not depend on where it
stands: its reports are about the places that the move leads to, and an exceeded limit of nesting is
the higher one.
-/

namespace MessageCard

/-- The cause under a limit that is so many levels higher. -/
def Cause.deepened (deeper : Nat) : Cause → Cause
  | depthExceeded limit => depthExceeded (limit + deeper)
  | cause => cause

@[simp]
theorem Cause.deepened_zero (cause : Cause) : cause.deepened 0 = cause := by
  cases cause <;> rfl

namespace Diagnostic

/-- The report about the place that the move leads to. -/
def moved (move : Path → Path) (report : Diagnostic) : Diagnostic :=
  { report with path := report.path.map move }

/-- The report under a limit that is so many levels higher. -/
def deepened (deeper : Nat) (report : Diagnostic) : Diagnostic :=
  { report with cause := report.cause.deepened deeper }

@[simp]
theorem deepened_zero (report : Diagnostic) : report.deepened 0 = report := by
  simp [deepened]

end Diagnostic

namespace Trace

variable {α β : Type}

/-- The trace at the place that the move leads to, so many levels deeper. -/
def moved (move : Path → Path) (deeper : Nat) (trace : Trace α) : Trace α where
  recorded := trace.recorded.map (Diagnostic.moved move)
  outcome :=
    match trace.outcome with
    | .aborted fatal => .aborted ((fatal.moved move).deepened deeper)
    | outcome => outcome

variable (move : Path → Path) (deeper : Nat)

@[simp]
theorem moved_recorded (trace : Trace α)
    : (trace.moved move deeper).recorded = trace.recorded.map (Diagnostic.moved move) :=
  rfl

theorem moved_done {trace : Trace α} {result : α} (ended : trace.outcome = .done result)
    : (trace.moved move deeper).outcome = .done result := by
  simp only [moved, ended]

theorem moved_aborted {trace : Trace α} {fatal : Diagnostic}
    (ended : trace.outcome = .aborted fatal)
    : (trace.moved move deeper).outcome = .aborted ((fatal.moved move).deepened deeper) := by
  simp only [moved, ended]

/-- A trace is dropped at the other place exactly when it is here, by cases on the outcome. -/
@[simp]
theorem moved_dropped_iff {trace : Trace α}
    : (trace.moved move deeper).outcome = .dropped ↔ trace.outcome = .dropped := by
  rcases trace with ⟨reports, outcome⟩
  cases outcome <;> simp [moved]

theorem andThen_moved (trace : Trace α) (next : α → Trace β)
    : (trace.andThen next).moved move deeper
      = (trace.moved move deeper).andThen
          (fun result => (next result).moved move deeper) := by
  rcases trace with ⟨recorded, outcome⟩
  cases outcome with
  | done result => simp only [andThen, after, moved, List.map_append]
  | dropped => rfl
  | aborted fatal => rfl

theorem optional_moved (trace : Trace α)
    : trace.optional.moved move deeper = (trace.moved move deeper).optional := by
  rcases trace with ⟨recorded, outcome⟩
  cases outcome <;> rfl

/-- Being the trace at the other place survives every way of putting traces together. -/
theorem moved_relation
    : TraceRelation (fun _ here there => here.moved move deeper = there) where
  done _ := rfl
  andThen first second := by
    rw [andThen_moved, first, funext second]
  optional related := by
    rw [optional_moved, related]

end Trace

/-- The setting with a limit of nesting that is so many levels higher. -/
def Setting.deepened (deeper : Nat) (setting : Setting) : Setting :=
  { setting with
    options := { setting.options with maxDepth := setting.options.maxDepth + deeper } }

/-- What is met at the other place is what is met here, moved; a level is too deep there exactly
when it is here, since level and limit grow alike.
-/
theorem Setting.moved_relocation (setting : Setting) (move : Path → Path) (deeper : Nat)
    : Relocation (fun _ here there => here.moved move deeper = there) move deeper setting
        (setting.deepened deeper) where
  locale := rfl
  fault fault path := by
    simp only [Setting.fault, Setting.deepened]
    cases setting.options.level <;> rfl
  defer _ _ := rfl
  unknown _ _ _ _ := rfl
  atLevel path level below other related := by
    have same : (setting.deepened deeper).options.maxDepth < level + deeper
        ↔ setting.options.maxDepth < level :=
      Nat.add_lt_add_iff_right
    simp only [atLevel, same]
    split
    · rfl
    · exact related

/-- A list of elements that the move takes to another place, on later positions or deeper, comes to
what it comes to here, moved.
-/
theorem Element.compileAll_eq_moved (setting : Setting) {move : Path → Path}
    {path other : Path} {offset : Nat}
    (carries
      : ∀ position, Path.Carries move (path.item position) (other.item (position + offset)))
    (deeper level : Nat) (elements : List Element)
    : Element.compileAll (setting.deepened deeper) other (level + deeper) offset elements
      = (Element.compileAll setting path level 0 elements).moved move deeper := by
  have related := Element.compileAll_moved (Trace.moved_relation move deeper)
    (setting.moved_relocation move deeper) carries level 0 elements
  rw [Nat.zero_add] at related
  exact related.symm

end MessageCard
