import MessageCard.Diagnostic

/-!
What compiling a part of a card comes to: the reports recorded on the way, and a result, a
part that is dropped, or a fatal report that ends the whole compilation.
-/

namespace MessageCard

/-- How compiling a part ended. -/
inductive Outcome (α : Type)
  | done (result : α)
  | dropped
  | aborted (fatal : Diagnostic)

/-- The reports recorded while compiling a part, in order, and how it ended. -/
structure Trace (α : Type) where
  recorded : List Diagnostic
  outcome : Outcome α

namespace Trace

variable {α β : Type}

/-- A result without reports. -/
def done (result : α) : Trace α :=
  { recorded := [], outcome := .done result }

/-- A part that is dropped, with the reports that say why. -/
def dropped (reports : List Diagnostic) : Trace α :=
  { recorded := reports, outcome := .dropped }

/-- The end of the whole compilation. -/
def aborted (fatal : Diagnostic) : Trace α :=
  { recorded := [], outcome := .aborted fatal }

/-- Adds reports that were recorded before. -/
def after (reports : List Diagnostic) (trace : Trace α) : Trace α :=
  { trace with recorded := reports ++ trace.recorded }

/-- Goes on from a result; a dropped part and a fatal report stay what they are. -/
def andThen (trace : Trace α) (next : α → Trace β) : Trace β :=
  match trace.outcome with
  | .done result => after trace.recorded (next result)
  | .dropped => { recorded := trace.recorded, outcome := .dropped }
  | .aborted fatal => { recorded := trace.recorded, outcome := .aborted fatal }

/-- Changes a result. -/
def map (f : α → β) (trace : Trace α) : Trace β :=
  trace.andThen fun result => done (f result)

/-- Goes on without a part that was dropped. -/
def optional (trace : Trace α) : Trace (Option α) :=
  match trace.outcome with
  | .done result => { trace with outcome := .done (some result) }
  | .dropped => { trace with outcome := .done none }
  | .aborted fatal => { trace with outcome := .aborted fatal }

end Trace

end MessageCard
