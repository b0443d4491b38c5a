import Mathlib.Data.List.Lex
import MessageCard.Compilation.Card

/-! The order of the places in a document, and the reports about the places that a path holds.  A
value holds its own place and those of its parts; the items of a list share none, and come one
after the other.
-/

namespace MessageCard

-----------------------------------------------------------------------------------------
-- The order of the document
-----------------------------------------------------------------------------------------

/-- The step leads to an earlier place: to an item of a lower index, or to the header rather than
the body.
-/
def Step.Before : Step → Step → Prop
  | .index first, .index second => first < second
  | .field first, .field second => first = "header" ∧ second = "elements"
  | _, _ => False

namespace Path

/-- The path leads to an earlier place of the document; a value comes before its parts. -/
def Before (first second : Path) : Prop :=
  List.Lex Step.Before first.steps second.steps

/-- No place comes before itself, since no step does. -/
theorem before_irrefl (path : Path) : ¬ path.Before path := by
  refine List.lex_irrefl (fun step before => ?_) path.steps
  cases step with
  | field name => exact absurd (before.1.symm.trans before.2) (by decide)
  | index position => exact Nat.lt_irrefl position before

theorem before_trans {first second third : Path} (left : first.Before second)
    (right : second.Before third)
    : first.Before third := by
  refine List.lex_trans ?_ left right
  intro early middle late before after
  cases early <;> cases middle <;> cases late <;> simp only [Step.Before] at before after ⊢
  · exact ⟨before.1, after.2⟩
  · exact Nat.lt_trans before after

/-- Whether the place is the value that the path leads to, or a part of it. -/
def holds (path place : Path) : Bool :=
  path.steps.isPrefixOf place.steps

/-- A place is held by a path exactly when it continues the path. -/
theorem holds_iff {path place : Path}
    : path.holds place = true ↔ ∃ rest, place.steps = path.steps ++ rest := by
  rw [holds, List.isPrefixOf_iff_prefix]
  exact exists_congr fun rest => eq_comm

theorem holds_self (path : Path) : path.holds path = true :=
  holds_iff.mpr ⟨[], (List.append_nil _).symm⟩

theorem holds_of_item {path place : Path} {position : Nat}
    (inside : (path.item position).holds place = true)
    : path.holds place = true := by
  obtain ⟨rest, steps⟩ := holds_iff.mp inside
  exact holds_iff.mpr ⟨.index position :: rest, by simpa [item] using steps⟩

theorem holds_of_field {path place : Path} {name : String}
    (inside : (path.field name).holds place = true)
    : path.holds place = true := by
  obtain ⟨rest, steps⟩ := holds_iff.mp inside
  exact holds_iff.mpr ⟨.field name :: rest, by simpa [field] using steps⟩

theorem item_not_holds (path : Path) (position : Nat)
    : (path.item position).holds path = false := by
  rw [Bool.eq_false_iff, ne_eq, holds_iff]
  rintro ⟨rest, steps⟩
  have longer := congrArg List.length steps
  simp only [item, List.length_append, List.length_cons, List.length_nil] at longer
  omega

/-- The items of a list have no place in common. -/
theorem holds_item_eq {path place : Path} {position : Nat}
    (inside : (path.item position).holds place = true) (other : Nat)
    : (path.item other).holds place = decide (other = position) := by
  obtain ⟨rest, steps⟩ := holds_iff.mp inside
  rw [Bool.eq_iff_iff, decide_eq_true_iff, holds_iff]
  simp only [item, List.append_assoc, List.cons_append, List.nil_append] at steps ⊢
  constructor
  · rintro ⟨others, again⟩
    rw [steps] at again
    have same := List.append_cancel_left again
    cases same
    rfl
  · rintro rfl
    exact ⟨rest, steps⟩

/-- The places of an item come before those of a later item. -/
theorem before_of_items {path first second : Path} {position later : Nat}
    (lower : position < later) (left : (path.item position).holds first = true)
    (right : (path.item later).holds second = true)
    : first.Before second := by
  obtain ⟨rest, steps⟩ := holds_iff.mp left
  obtain ⟨others, laterSteps⟩ := holds_iff.mp right
  rw [Before, steps, laterSteps]
  simp only [item, List.append_assoc, List.cons_append, List.nil_append]
  have earlier : Step.Before (.index position) (.index later) := lower
  exact List.Lex.append_left Step.Before (.rel earlier) path.steps

/-- The places of the header come before those of the body. -/
theorem before_of_sections {first second : Path} (left : header.holds first = true)
    (right : body.holds second = true)
    : first.Before second := by
  obtain ⟨rest, steps⟩ := holds_iff.mp left
  obtain ⟨others, laterSteps⟩ := holds_iff.mp right
  rw [Before, steps, laterSteps]
  exact .rel ⟨rfl, rfl⟩

end Path

-----------------------------------------------------------------------------------------
-- Reports about the places of a path
-----------------------------------------------------------------------------------------

namespace Diagnostic

/-- Whether the report is about a place that the path holds. -/
def within (path : Path) (report : Diagnostic) : Bool :=
  report.path.any path.holds

/-- Both reports are about places, the first about the earlier one. -/
def Before (first second : Diagnostic) : Prop :=
  ∃ place later, first.path = some place ∧ second.path = some later ∧ place.Before later

theorem within_iff {path : Path} {report : Diagnostic}
    : report.within path = true
      ↔ ∃ place, report.path = some place ∧ path.holds place = true := by
  cases place : report.path <;> simp [within, place]

/-- A report within an item is within no other item of the list. -/
theorem within_item_eq {path : Path} {report : Diagnostic} {position : Nat}
    (inside : report.within (path.item position) = true) (other : Nat)
    : report.within (path.item other) = decide (other = position) := by
  obtain ⟨place, found, held⟩ := within_iff.mp inside
  simpa only [within, found, Option.any_some] using Path.holds_item_eq held other

/-- Reports selected narrowly are selected from those selected widely. -/
theorem filter_narrow {wide narrow : Diagnostic → Bool}
    (inward : ∀ report, narrow report = true → wide report = true) (reports : List Diagnostic)
    : (reports.filter wide).filter narrow = reports.filter narrow := by
  rw [List.filter_filter]
  refine List.filter_congr fun report _ => ?_
  cases selected : narrow report with
  | false => rfl
  | true => exact inward report selected

/-- Among the reports within a path, those within a part of it are all that there are. -/
theorem filter_within {path part : Path}
    (inward : ∀ place, part.holds place = true → path.holds place = true)
    (reports : List Diagnostic)
    : (reports.filter (within path)).filter (within part) = reports.filter (within part) := by
  refine filter_narrow (fun report inside => ?_) reports
  obtain ⟨place, found, held⟩ := within_iff.mp inside
  exact within_iff.mpr ⟨place, found, inward place held⟩

end Diagnostic

end MessageCard
