import MessageCard.Compilation.Trace

/-! How traces are put together.  Sequencing adds up reports and hands on results; a part that
is dropped or ends the compilation stays what it is.  Proofs about compilations use these laws
and leave the operations closed.
-/

namespace MessageCard.Trace

variable {α β : Type}

/-- A result without reports goes on as its continuation; witness: definitional equality. -/
@[simp]
theorem done_andThen (result : α) (next : α → Trace β)
    : (done result).andThen next = next result :=
  rfl

@[simp]
theorem done_map (f : α → β) (result : α) : (done result).map f = done (f result) :=
  rfl

/-- Sequences can be regrouped, by cases on the outcome of the first part. -/
theorem andThen_assoc {γ : Type} (trace : Trace α) (next : α → Trace β)
    (last : β → Trace γ)
    : (trace.andThen next).andThen last
      = trace.andThen (fun result => (next result).andThen last) := by
  rcases trace with ⟨reports, outcome⟩
  cases outcome with
  | done result =>
      simp only [andThen, after]
      cases (next result).outcome <;> simp [List.append_assoc]
  | _ => rfl

theorem andThen_map {γ : Type} (trace : Trace α) (next : α → Trace β) (f : β → γ)
    : (trace.andThen next).map f = trace.andThen (fun result => (next result).map f) :=
  andThen_assoc trace next (fun result => done (f result))

theorem map_andThen {γ : Type} (trace : Trace α) (f : α → β) (next : β → Trace γ)
    : (trace.map f).andThen next = trace.andThen (fun result => next (f result)) :=
  andThen_assoc trace (fun result => done (f result)) next

theorem map_map {γ : Type} (trace : Trace α) (f : α → β) (g : β → γ)
    : (trace.map f).map g = trace.map (g ∘ f) :=
  map_andThen trace f (fun result => done (g result))

/-- Leaving results as they are leaves the trace as it is, by cases on the outcome. -/
@[simp]
theorem map_id (trace : Trace α) : trace.map id = trace := by
  rcases trace with ⟨reports, outcome⟩
  cases outcome <;> simp [map, andThen, after, done]

/-- Changing results keeps the reports, by cases on the outcome. -/
@[simp]
theorem map_recorded (f : α → β) (trace : Trace α)
    : (trace.map f).recorded = trace.recorded := by
  rcases trace with ⟨reports, outcome⟩
  cases outcome <;> simp [map, andThen, after, done]

/-- Going on without a dropped part keeps the reports, by cases on the outcome. -/
@[simp]
theorem optional_recorded (trace : Trace α) : trace.optional.recorded = trace.recorded := by
  rcases trace with ⟨reports, outcome⟩
  cases outcome <;> rfl

/-- A sequence that starts with a result reports what both of its parts report. -/
theorem andThen_recorded {trace : Trace α} {result : α} (next : α → Trace β)
    (ended : trace.outcome = .done result)
    : (trace.andThen next).recorded = trace.recorded ++ (next result).recorded := by
  simp only [andThen, ended, after]

theorem andThen_outcome {trace : Trace α} {result : α} (next : α → Trace β)
    (ended : trace.outcome = .done result)
    : (trace.andThen next).outcome = (next result).outcome := by
  simp only [andThen, ended, after]

theorem andThen_aborted {trace : Trace α} {fatal : Diagnostic} (next : α → Trace β)
    (ended : trace.outcome = .aborted fatal)
    : (trace.andThen next).outcome = .aborted fatal := by
  simp only [andThen, ended]

/-- A sequence reports what its first part reports, and what the second does if it is reached;
by cases on the outcome of the first.
-/
theorem andThen_recorded_cases (trace : Trace α) (next : α → Trace β)
    : (trace.andThen next).recorded = trace.recorded
      ∨ ∃ result, (trace.andThen next).recorded = trace.recorded ++ (next result).recorded := by
  cases ended : trace.outcome with
  | done result => exact Or.inr ⟨result, andThen_recorded next ended⟩
  | _ => exact Or.inl (by simp only [andThen, ended])

/-- The result of a trace, if it has one. -/
def result? (trace : Trace α) : Option α :=
  match trace.outcome with
  | .done result => some result
  | _ => none

/-- A trace has a result exactly when it is done, by cases on the outcome. -/
theorem result?_eq_some_iff {trace : Trace α} {result : α}
    : trace.result? = some result ↔ trace.outcome = .done result := by
  rcases trace with ⟨reports, outcome⟩
  cases outcome <;> simp [result?]

/-- A trace runs to its end when nothing ends the compilation in it. -/
def Runs (trace : Trace α) : Prop :=
  ∀ fatal, trace.outcome ≠ .aborted fatal

theorem runs_of_done {trace : Trace α} {result : α} (ended : trace.outcome = .done result)
    : trace.Runs := by
  intro fatal aborted
  rw [ended] at aborted
  cases aborted

/-- A trace that runs to its end and is not dropped has a result, by cases on the outcome. -/
theorem done_of_runs {trace : Trace α} (runs : trace.Runs) (kept : trace.outcome ≠ .dropped)
    : ∃ result, trace.outcome = .done result := by
  cases ended : trace.outcome with
  | done result => exact ⟨result, rfl⟩
  | dropped => exact (kept ended).elim
  | aborted fatal => exact (runs fatal ended).elim

/-- A sequence that runs to its end does so in both parts, by cases on the outcome of the first.
-/
theorem andThen_runs_iff {trace : Trace α} {next : α → Trace β}
    : (trace.andThen next).Runs
      ↔ trace.Runs ∧ ∀ result, trace.outcome = .done result → (next result).Runs := by
  rcases trace with ⟨reports, outcome⟩
  cases outcome <;> simp [Runs, andThen, after]

/-- A sequence has a result exactly when both of its parts have one, by cases on the outcome
of the first.
-/
theorem andThen_done_iff {trace : Trace α} {next : α → Trace β} {result : β}
    : (trace.andThen next).outcome = .done result
      ↔ ∃ first, trace.outcome = .done first ∧ (next first).outcome = .done result := by
  rcases trace with ⟨reports, outcome⟩
  cases outcome <;> simp [andThen, after]

/-- A sequence is dropped when either of its parts is, by cases on the outcome of the first. -/
theorem andThen_dropped_iff {trace : Trace α} {next : α → Trace β}
    : (trace.andThen next).outcome = .dropped
      ↔ trace.outcome = .dropped
        ∨ ∃ first, trace.outcome = .done first ∧ (next first).outcome = .dropped := by
  rcases trace with ⟨reports, outcome⟩
  cases outcome <;> simp [andThen, after]

theorem map_done_iff {f : α → β} {trace : Trace α} {result : β}
    : (trace.map f).outcome = .done result
      ↔ ∃ first, trace.outcome = .done first ∧ f first = result := by
  simp only [map, andThen_done_iff, done, Outcome.done.injEq]

theorem map_aborted_iff {f : α → β} {trace : Trace α} {fatal : Diagnostic}
    : (trace.map f).outcome = .aborted fatal ↔ trace.outcome = .aborted fatal := by
  rcases trace with ⟨reports, outcome⟩
  cases outcome <;> simp [map, andThen, after, done]

@[simp]
theorem map_dropped_iff {f : α → β} {trace : Trace α}
    : (trace.map f).outcome = .dropped ↔ trace.outcome = .dropped := by
  rcases trace with ⟨reports, outcome⟩
  cases outcome <;> simp [map, andThen, after, done]

@[simp]
theorem map_runs_iff {f : α → β} {trace : Trace α} : (trace.map f).Runs ↔ trace.Runs := by
  rcases trace with ⟨reports, outcome⟩
  cases outcome <;> simp [Runs, map, andThen, after, done]

/-- A part that may be dropped is never dropped itself, by cases on the outcome. -/
theorem optional_not_dropped (trace : Trace α) : trace.optional.outcome ≠ .dropped := by
  rcases trace with ⟨reports, outcome⟩
  cases outcome <;> simp [optional]

theorem optional_some_iff {trace : Trace α} {result : α}
    : trace.optional.outcome = .done (some result) ↔ trace.outcome = .done result := by
  rcases trace with ⟨reports, outcome⟩
  cases outcome <;> simp [optional]

@[simp]
theorem optional_runs_iff {trace : Trace α} : trace.optional.Runs ↔ trace.Runs := by
  rcases trace with ⟨reports, outcome⟩
  cases outcome <;> simp [Runs, optional]

/-- A part that may be dropped yields its result, if it has one, by cases on the outcome. -/
theorem result?_of_optional {trace : Trace α} {part : Option α}
    (ended : trace.optional.outcome = .done part)
    : part = trace.result? := by
  rcases trace with ⟨reports, outcome⟩
  cases outcome <;> cases ended <;> rfl

end MessageCard.Trace
