import Mathlib.Data.List.ReduceOption
import MessageCard.Compilation.Element
import MessageCard.Proofs.TraceAlgebra

/-! Traces of lists.  The children of a note, the elements of a list and the columns of a set are
all compiled item by item at growing positions; what holds of any such traversal is stated once,
and the three lists are instances of it.
-/

namespace MessageCard

namespace Trace

variable {α β : Type}

/-- Goes through items in order, from a position on, and collects their results. -/
def inOrder (each : Nat → α → Trace β) (index : Nat) : List α → Trace (List β)
  | [] => done []
  | item :: rest =>
      (each index item).andThen fun result =>
        (inOrder each (index + 1) rest).map (result :: ·)

variable {each : Nat → α → Trace β}

/-- What is known of the result of every item is known of all of them in order, by list induction.
-/
theorem inOrder_results {γ : Type} {f : β → γ} {g : Nat → α → γ}
    (each_result
      : ∀ position item result,
          (each position item).outcome = .done result → f result = g position item)
    {index : Nat} {items : List α} {results : List β}
    (ended : (inOrder each index items).outcome = .done results)
    : results.map f = items.mapIdx (fun position item => g (index + position) item) := by
  induction items generalizing index results with
  | nil =>
      obtain rfl : [] = results := by simpa [inOrder, done] using ended
      rfl
  | cons item rest ih =>
      obtain ⟨result, first, later⟩ := andThen_done_iff.mp ended
      obtain ⟨others, below, rfl⟩ := map_done_iff.mp later
      have shifted : (fun position other => g (index + (position + 1)) other)
          = (fun position other => g (index + 1 + position) other) := by
        funext position other
        rw [Nat.add_assoc, Nat.add_comm 1]
      rw [List.map_cons, List.mapIdx_cons, each_result index item result first, ih below, shifted]
      rfl

/-- Every result of a traversal is that of one of its items, by list induction. -/
theorem mem_of_inOrder_done {index : Nat} {items : List α} {results : List β} {result : β}
    (ended : (inOrder each index items).outcome = .done results) (member : result ∈ results)
    : ∃ position, ∃ item ∈ items, (each position item).outcome = .done result := by
  induction items generalizing index results with
  | nil =>
      obtain rfl : [] = results := by simpa [inOrder, done] using ended
      simp at member
  | cons item rest ih =>
      obtain ⟨own, first, later⟩ := andThen_done_iff.mp ended
      obtain ⟨others, below, rfl⟩ := map_done_iff.mp later
      rcases List.mem_cons.mp member with rfl | member
      · exact ⟨index, item, by simp, first⟩
      · obtain ⟨position, other, listed, found⟩ := ih below member
        exact ⟨position, other, by simp [listed], found⟩

theorem inOrder_length {index : Nat} {items : List α} {results : List β}
    (ended : (inOrder each index items).outcome = .done results)
    : results.length = items.length := by
  have paired := inOrder_results (f := fun _ => ()) (g := fun _ _ => ())
    (fun _ _ _ _ => rfl) ended
  simpa using congrArg List.length paired

/-- Items that have results wherever they stand have them in order, by list induction. -/
theorem inOrder_filterMap {items : List α} (f : α → Option β)
    (ended
      : ∀ item ∈ items,
          ∀ position,
            ∃ result, f item = some result ∧ (each position item).outcome = .done result)
    (index : Nat)
    : (inOrder each index items).outcome = .done (items.filterMap f) := by
  induction items generalizing index with
  | nil => rfl
  | cons item rest ih =>
      obtain ⟨result, known, first⟩ := ended item (by simp) index
      have below := ih (fun other member => ended other (by simp [member])) (index + 1)
      rw [List.filterMap_cons_some known]
      exact andThen_done_iff.mpr ⟨result, first, map_done_iff.mpr ⟨_, below, rfl⟩⟩

/-- A traversal of changed items is a traversal that changes each item, by list induction. -/
theorem inOrder_map_items {γ : Type} (read : γ → α) (index : Nat) (items : List γ)
    : inOrder each index (items.map read)
      = inOrder (fun position item => each position (read item)) index items := by
  induction items generalizing index with
  | nil => rfl
  | cons item rest ih => simp only [List.map_cons, inOrder, ih]

/-- Where no item is ever dropped, every item of a traversal that runs to its end does so where
it stands.  By list induction.
-/
theorem inOrder_runs_at {index : Nat} {items : List α}
    (kept : ∀ position item, (each position item).outcome ≠ .dropped)
    (runs : (inOrder each index items).Runs) {item : α} (member : item ∈ items)
    : ∃ position, (each position item).Runs := by
  induction items generalizing index with
  | nil => simp at member
  | cons first rest ih =>
      obtain ⟨firstRuns, restRuns⟩ := andThen_runs_iff.mp runs
      rcases List.mem_cons.mp member with rfl | later
      · exact ⟨index, firstRuns⟩
      · obtain ⟨result, ended⟩ := done_of_runs firstRuns (kept index first)
        exact ih (map_runs_iff.mp (restRuns result ended)) later

/-- A report of a traversal comes from an item that is reached: every item before it has a
result.  By list induction.
-/
theorem mem_inOrder_recorded {index : Nat} {items : List α} {report : Diagnostic}
    (member : report ∈ (inOrder each index items).recorded)
    : ∃ position item,
        items[position]? = some item
        ∧ report ∈ (each (index + position) item).recorded
        ∧ ∀ earlier < position, ∀ other,
            items[earlier]? = some other
            → ∃ result, (each (index + earlier) other).outcome = .done result := by
  induction items generalizing index with
  | nil => simp [inOrder, done] at member
  | cons item rest ih =>
      have here (own : report ∈ (each index item).recorded)
          : ∃ position found,
              (item :: rest)[position]? = some found
              ∧ report ∈ (each (index + position) found).recorded
              ∧ ∀ earlier < position, ∀ other,
                  (item :: rest)[earlier]? = some other
                  → ∃ result, (each (index + earlier) other).outcome = .done result :=
        ⟨0, item, rfl, own, by simp⟩
      cases ended : (each index item).outcome with
      | done result =>
          rw [inOrder, andThen_recorded _ ended, map_recorded] at member
          rcases List.mem_append.mp member with own | later
          · exact here own
          · obtain ⟨position, found, listed, own, reached⟩ := ih later
            rw [Nat.add_assoc, Nat.add_comm 1] at own
            refine ⟨position + 1, found, listed, own, ?_⟩
            intro earlier before other listedOther
            cases earlier with
            | zero =>
                obtain rfl := Option.some.inj listedOther
                exact ⟨result, ended⟩
            | succ earlier =>
                have reachedOther := reached earlier (by omega) other listedOther
                rwa [Nat.add_assoc, Nat.add_comm 1] at reachedOther
      | dropped => exact here (by simpa [inOrder, andThen, ended] using member)
      | aborted fatal => exact here (by simpa [inOrder, andThen, ended] using member)

section Selection

variable {select : Nat → Diagnostic → Bool}
  (own
    : ∀ position item report,
        report ∈ (each position item).recorded
        → ∀ other, select other report = decide (other = position))

include own

/-- An item reports nothing that a selection assigns to another position. -/
theorem item_filter_ne {position other : Nat} (different : other ≠ position) (item : α)
    : (each position item).recorded.filter (select other) = [] := by
  rw [List.filter_eq_nil_iff]
  intro report member
  simp [own position item report member other, different]

/-- What a selection assigns to the position of an item is all that the item reports. -/
theorem item_filter_self (position : Nat) (item : α)
    : (each position item).recorded.filter (select position)
      = (each position item).recorded := by
  rw [List.filter_eq_self]
  intro report member
  simp [own position item report member position]

/-- A traversal from an index on reports nothing that a selection assigns to a position before. -/
theorem inOrder_filter_before {position index : Nat} (before : position < index)
    (items : List α)
    : (inOrder each index items).recorded.filter (select position) = [] := by
  rw [List.filter_eq_nil_iff]
  intro report member
  obtain ⟨later, item, _, recorded, _⟩ := mem_inOrder_recorded member
  simp only [own _ _ _ recorded position, decide_eq_true_eq]
  omega

/-- In a traversal that runs to its end, the reports that a selection assigns to one position are
exactly those of the item there, if that item is reached.  By list induction.
-/
theorem inOrder_filter {index position : Nat} {items : List α} {item : α}
    (runs : (inOrder each index items).Runs) (listed : items[position]? = some item)
    (reached
      : ∀ earlier < position, ∀ other,
          items[earlier]? = some other
          → (each (index + earlier) other).outcome ≠ .dropped)
    : (inOrder each index items).recorded.filter (select (index + position))
        = (each (index + position) item).recorded
      ∧ (each (index + position) item).Runs := by
  induction items generalizing index position with
  | nil => simp at listed
  | cons first rest ih =>
      obtain ⟨firstRuns, restRuns⟩ := andThen_runs_iff.mp runs
      cases position with
      | zero =>
          obtain rfl := Option.some.inj listed
          refine ⟨?_, firstRuns⟩
          have whole := item_filter_self own index first
          cases ended : (each index first).outcome with
          | done result =>
              -- what follows is reported at later positions only
              rw [inOrder, andThen_recorded _ ended, map_recorded, List.filter_append,
                Nat.add_zero, whole, inOrder_filter_before own (Nat.lt_succ_self index),
                List.append_nil]
          | dropped => simpa [inOrder, andThen, ended] using whole
          | aborted fatal => exact (firstRuns fatal ended).elim
      | succ position =>
          -- the first item has a result, or the traversal would have stopped before the position
          obtain ⟨result, ended⟩ := done_of_runs firstRuns (reached 0 (by omega) first rfl)
          have below := ih (map_runs_iff.mp (restRuns result ended)) listed (by
            intro earlier before other otherListed
            have reachedOther := reached (earlier + 1) (by omega) other otherListed
            rwa [Nat.add_comm earlier 1, ← Nat.add_assoc] at reachedOther)
          have shifted : index + (position + 1) = index + 1 + position := by omega
          have different : index + 1 + position ≠ index := by omega
          rw [inOrder, andThen_recorded _ ended, map_recorded, List.filter_append, shifted,
            item_filter_ne own different, List.nil_append]
          exact below

end Selection

/-- The reports of a traversal are in order when those of each item are and those of an earlier
item come before those of a later one.  By list induction.
-/
theorem inOrder_pairwise {Before : Diagnostic → Diagnostic → Prop} {items : List α}
    (inside : ∀ item ∈ items, ∀ position, (each position item).recorded.Pairwise Before)
    (across
      : ∀ item ∈ items, ∀ other ∈ items,
          ∀ position later,
            position < later
            → ∀ first ∈ (each position item).recorded,
                ∀ second ∈ (each later other).recorded, Before first second)
    (index : Nat)
    : (inOrder each index items).recorded.Pairwise Before := by
  induction items generalizing index with
  | nil => simp [inOrder, done]
  | cons item rest ih =>
      have here := inside item (by simp) index
      cases ended : (each index item).outcome with
      | done result =>
          rw [inOrder, andThen_recorded _ ended, map_recorded, List.pairwise_append]
          refine ⟨here, ih ?insideRest ?acrossRest (index + 1), ?_⟩
          case insideRest => exact fun other member => inside other (by simp [member])
          case acrossRest =>
            exact fun other member later listed =>
              across other (by simp [member]) later (by simp [listed])
          intro first member second later
          obtain ⟨position, other, listed, own, _⟩ := mem_inOrder_recorded later
          exact across item (by simp) other (by simp [List.mem_of_getElem? listed]) index _
            (by omega) first member second own
      | dropped => simpa [inOrder, andThen, ended] using here
      | aborted fatal => simpa [inOrder, andThen, ended] using here

end Trace

-----------------------------------------------------------------------------------------
-- The lists of a card as traversals
-----------------------------------------------------------------------------------------

/-- The children of a note are a traversal, by list induction. -/
theorem Child.compileAll_eq (setting : Setting) (path : Path) (index : Nat)
    (children : List Child)
    : Child.compileAll setting path index children
      = Trace.inOrder (fun position child => child.compile setting (path.item position))
          index children := by
  induction children generalizing index with
  | nil => rfl
  | cons child rest ih => simp only [Child.compileAll, Trace.inOrder, ih]

theorem Column.compileAll_eq (setting : Setting) (path : Path) (level index : Nat)
    (columns : List Column)
    : Column.compileAll setting path level index columns
      = Trace.inOrder (fun position column => column.compile setting (path.item position) level)
          index columns := by
  induction columns generalizing index with
  | nil => simp only [Column.compileAll, Trace.inOrder]
  | cons column rest ih => simp only [Column.compileAll, Trace.inOrder, ih]

/-- A list of elements is a traversal that skips what is dropped, by list induction. -/
theorem Element.compileAll_eq (setting : Setting) (path : Path) (level index : Nat)
    (elements : List Element)
    : Element.compileAll setting path level index elements
      = (Trace.inOrder
            (fun position element =>
              (element.compile setting (path.item position) level).optional)
            index elements).map
          List.reduceOption := by
  induction elements generalizing index with
  | nil => simp [Element.compileAll, Trace.inOrder]
  | cons element rest ih =>
      simp only [Element.compileAll, Trace.inOrder, ih, Trace.andThen_map, Trace.map_map]
      congr 1
      funext node
      congr 1
      funext nodes
      cases node <;> simp [List.reduceOption_cons_of_some, List.reduceOption_cons_of_none]

/-- A fault never comes to a result, by cases on the level. -/
theorem Setting.fault_not_done {α : Type} {setting : Setting} {fault : Fault} {path : Path}
    {result : α}
    : (setting.fault fault path : Trace α).outcome ≠ .done result := by
  rw [Setting.fault]
  split <;> simp [Trace.dropped, Trace.aborted]

theorem Setting.abort_not_runs {α : Type} (setting : Setting) (cause : Cause) (path : Path)
    : ¬ (setting.abort cause path : Trace α).Runs :=
  fun runs => runs _ rfl

theorem atLevel_of_le {α : Type} {setting : Setting} {level : Nat}
    (within : level ≤ setting.options.maxDepth) (path : Path) (trace : Trace α)
    : atLevel setting path level trace = trace := by
  rw [atLevel, if_neg (Nat.not_lt.mpr within)]

theorem le_of_atLevel_runs {α : Type} {setting : Setting} {path : Path} {level : Nat}
    {trace : Trace α} (runs : (atLevel setting path level trace).Runs)
    : level ≤ setting.options.maxDepth := by
  by_contra deeper
  rw [atLevel, if_pos (Nat.lt_of_not_le deeper)] at runs
  exact Setting.abort_not_runs setting _ _ runs

/-- A column within the limit is compiled as its elements are, also when it has none. -/
theorem Column.compile_elements {setting : Setting} {level : Nat} {elements : List Element}
    (within : elements ≠ [] → level + 1 ≤ setting.options.maxDepth) (path : Path)
    : (Column.elements elements).compile setting path level
      = (Element.compileAll setting (path.field "elements") (level + 1) 0 elements).map
          (Node.new .column [Style.column]).withChildren := by
  cases elements with
  | nil => simp only [Column.compile, Element.compileAll, Trace.done_map]
  | cons first rest =>
      rw [Column.compile, atLevel_of_le (within (by simp))]

/-- A column with elements that runs to its end is within the limit. -/
theorem Column.within_of_runs {setting : Setting} {path : Path} {level : Nat}
    {elements : List Element}
    (runs : ((Column.elements elements).compile setting path level).Runs)
    (occupied : elements ≠ [])
    : level + 1 ≤ setting.options.maxDepth := by
  cases elements with
  | nil => exact (occupied rfl).elim
  | cons first rest =>
      rw [Column.compile, Trace.map_runs_iff] at runs
      exact le_of_atLevel_runs runs

/-- A list of elements is done with nodes exactly when the traversal is done with parts, of which
the nodes are those that are there.
-/
theorem Element.compileAll_done_iff {setting : Setting} {path : Path} {level index : Nat}
    {elements : List Element} {nodes : List Node}
    : (Element.compileAll setting path level index elements).outcome = .done nodes
      ↔ ∃ parts,
          (Trace.inOrder
              (fun position element =>
                (element.compile setting (path.item position) level).optional)
              index elements).outcome
            = .done parts
          ∧ parts.reduceOption = nodes := by
  rw [Element.compileAll_eq, Trace.map_done_iff]

end MessageCard
