import Mathlib.Data.List.Induction
import MessageCard.Markdown.Runs

/-! Runs from nested markup.  A stream of events in which every container is closed by an end of its
own is the stream of exactly one forest, and the runs that are read from it are those that the forest
builds: formatting holds the runs of its content alone, and other containers are seen through.
-/

namespace MessageCard

-----------------------------------------------------------------------------------------
-- Nested streams and forests
-----------------------------------------------------------------------------------------

namespace Event

/-- The event neither starts nor ends a container. -/
def IsSingle : Event → Prop
  | start _ => False
  | finish _ => False
  | _ => True

/-- Every container of the stream is closed by an end of its own, after the events in it. -/
inductive Nested : List Event → Prop
  | nil : Nested []
  | single {event : Event} {rest : List Event} (alone : event.IsSingle) (more : Nested rest)
    : Nested (event :: rest)
  | container (container : Container) {inside rest : List Event} (within : Nested inside)
    (more : Nested rest)
    : Nested (.start container :: (inside ++ .finish container.closing :: rest))

theorem Nested.append {events others : List Event} (nested : Nested events)
    (after : Nested others)
    : Nested (events ++ others) := by
  induction nested with
  | nil => exact after
  | single alone _ ih => exact .single alone ih
  | container container within _ _ ih =>
      rw [List.cons_append, List.append_assoc, List.cons_append]
      exact .container container within ih

/-- A part of nested markup: an event by itself, or a container with the parts in it. -/
inductive Tree
  | single (event : Event) (alone : event.IsSingle)
  | container (container : Container) (content : List Tree)

namespace Tree

mutual

/-- The events of a part, a container enclosed in its start and its end. -/
def events : Tree → List Event
  | single event _ => [event]
  | container enclosing content =>
      .start enclosing :: (eventsOfAll content ++ [.finish enclosing.closing])

/-- The events of parts, one part after the other. -/
def eventsOfAll : List Tree → List Event
  | [] => []
  | tree :: rest => tree.events ++ eventsOfAll rest

end

mutual

theorem events_nested (tree : Tree) : Nested tree.events := by
  cases tree with
  | single event alone => exact .single alone .nil
  | container container content => exact .container container (eventsOfAll_nested content) .nil
termination_by sizeOf tree

theorem eventsOfAll_nested (forest : List Tree) : Nested (eventsOfAll forest) := by
  cases forest with
  | nil => exact .nil
  | cons tree rest => exact (events_nested tree).append (eventsOfAll_nested rest)
termination_by sizeOf forest

end

/-- A nested stream is that of a forest, by induction over it. -/
theorem exists_forest {stream : List Event} (nested : Nested stream)
    : ∃ forest, eventsOfAll forest = stream := by
  induction nested with
  | nil => exact ⟨[], rfl⟩
  | @single event rest alone _ ih =>
      obtain ⟨forest, later⟩ := ih
      exact ⟨single event alone :: forest, by rw [eventsOfAll, events, later, List.singleton_append]⟩
  | @container enclosing inside rest _ _ inner later =>
      obtain ⟨content, inside⟩ := inner
      obtain ⟨forest, later⟩ := later
      refine ⟨container enclosing content :: forest, ?_⟩
      rw [eventsOfAll, events, inside, later, List.cons_append, List.append_assoc,
        List.singleton_append]

/-- What comes next, if anything, is the end of a container. -/
def Ends (rest : List Event) : Prop :=
  ∀ event, rest.head? = some event → ∃ closing, event = .finish closing

/-- A part does not start with the end of a container. -/
theorem Ends.ne_tree {rest : List Event} (ends : Ends rest) (tree : Tree) (more : List Event)
    : rest ≠ tree.events ++ more := by
  intro same
  cases tree with
  | single event alone =>
      obtain ⟨closing, rfl⟩ := ends event (by rw [same, events]; rfl)
      exact alone
  | container container content =>
      obtain ⟨closing, other⟩ := ends (.start container) (by rw [same, events]; rfl)
      cases other

mutual

/-- A part is told from its events, whatever follows. -/
theorem events_append_inj {tree other : Tree} {rest more : List Event}
    (same : tree.events ++ rest = other.events ++ more)
    : tree = other ∧ rest = more := by
  cases tree with
  | single event alone =>
      cases other with
      | single otherEvent _ =>
          obtain ⟨rfl, after⟩ := List.cons.inj same
          exact ⟨rfl, after⟩
      | container otherContainer otherContent =>
          obtain ⟨rfl, _⟩ := List.cons.inj same
          exact alone.elim
  | container enclosing content =>
      cases other with
      | single otherEvent otherAlone =>
          obtain ⟨rfl, _⟩ := List.cons.inj same
          exact otherAlone.elim
      | container otherContainer otherContent =>
          simp only [events, List.cons_append, List.append_assoc, List.cons.injEq,
            Event.start.injEq] at same
          obtain ⟨rfl, inside⟩ := same
          have ends (after : List Event) : Ends ([.finish enclosing.closing] ++ after) := by
            intro event first
            exact ⟨enclosing.closing, (Option.some.inj first).symm⟩
          obtain ⟨rfl, after⟩ := eventsOfAll_append_inj (ends rest) (ends more) inside
          exact ⟨rfl, (List.cons.inj after).2⟩
termination_by sizeOf tree

/-- A forest is told from its events, up to the end of what encloses it. -/
theorem eventsOfAll_append_inj {forest other : List Tree} {rest more : List Event}
    (ends : Ends rest) (otherEnds : Ends more)
    (same : eventsOfAll forest ++ rest = eventsOfAll other ++ more)
    : forest = other ∧ rest = more := by
  cases forest with
  | nil =>
      cases other with
      | nil => exact ⟨rfl, same⟩
      | cons first others =>
          rw [eventsOfAll, eventsOfAll, List.append_assoc] at same
          exact (ends.ne_tree first _ same).elim
  | cons tree forest =>
      cases other with
      | nil =>
          rw [eventsOfAll, eventsOfAll, List.append_assoc] at same
          exact (otherEnds.ne_tree tree _ same.symm).elim
      | cons first others =>
          rw [eventsOfAll, eventsOfAll, List.append_assoc, List.append_assoc] at same
          obtain ⟨rfl, after⟩ := events_append_inj same
          obtain ⟨rfl, ended⟩ := eventsOfAll_append_inj ends otherEnds after
          exact ⟨rfl, ended⟩
termination_by sizeOf forest

end

theorem eventsOfAll_injective {forest other : List Tree}
    (same : eventsOfAll forest = eventsOfAll other)
    : forest = other := by
  have ends : Ends [] := fun _ none => by cases none
  have whole : eventsOfAll forest ++ [] = eventsOfAll other ++ [] := by rw [same]
  exact (eventsOfAll_append_inj ends ends whole).1

end Tree

end Event

-----------------------------------------------------------------------------------------
-- The runs of a forest
-----------------------------------------------------------------------------------------

/-- The runs with text after them: it extends a text that stands last, or is a run of its own. -/
def Run.extended (runs : List Run) (value : String) : List Run :=
  match runs.getLast? with
  | some (.text before) => runs.dropLast ++ [.text (before ++ value)]
  | _ => runs ++ [.text value]

/-- The runs after which a paragraph starts: on a new line, unless there are none. -/
def Run.broken (runs : List Run) : List Run :=
  if runs.isEmpty then [] else runs ++ [.hardBreak]

/-- The runs with that of an event by itself after them, if it has one. -/
def Event.addTo (runs : List Run) : Event → List Run
  | text value => Run.extended runs value
  | html value => Run.extended runs value
  | code value => runs ++ [.code value]
  | softBreak => runs ++ [.softBreak]
  | hardBreak => runs ++ [.hardBreak]
  | _ => runs

namespace Event.Tree

mutual

/-- The runs with those of a part after them.  Formatting is one run, around the runs of its content;
any other container has the runs of its content go on with those before it.
-/
def addTo (runs : List Run) : Tree → List Run
  | single event _ => event.addTo runs
  | container (.formatting kind) content => runs ++ [kind.run (addAllTo [] content)]
  | container .paragraph content => addAllTo (Run.broken runs) content
  | container .other content => addAllTo runs content

/-- The runs with those of parts after them, one part after the other. -/
def addAllTo (runs : List Run) : List Tree → List Run
  | [] => runs
  | tree :: rest => addAllTo (tree.addTo runs) rest

end

/-- The runs of a forest. -/
def runs (forest : List Tree) : List Run :=
  addAllTo [] forest

end Event.Tree

-----------------------------------------------------------------------------------------
-- Reading nested streams
-----------------------------------------------------------------------------------------

namespace Run

theorem addText_reverse (runs : List Run) (value : String)
    : addText value runs.reverse = (extended runs value).reverse := by
  induction runs using List.reverseRecOn with
  | nil => rfl
  | append_singleton runs last _ =>
      rw [List.reverse_append, List.reverse_singleton, List.singleton_append, extended,
        List.getLast?_concat]
      cases last <;> simp [addText]

theorem addParagraph_reverse (runs : List Run)
    : addParagraph runs.reverse = (broken runs).reverse := by
  induction runs using List.reverseRecOn with
  | nil => rfl
  | append_singleton runs last _ => simp [broken, addParagraph]

namespace Reading

/-- An event by itself adds its run to those of the innermost formatting. -/
theorem step_single {event : Event} (alone : event.IsSingle) (runs : List Run)
    (outer : List (Formatting × List Run))
    : step { current := runs.reverse, outer } event
      = { current := (event.addTo runs).reverse, outer } := by
  cases event with
  | start container => exact alone.elim
  | finish closing => exact alone.elim
  | text value => rw [step, addText_reverse]; rfl
  | html value => rw [step, addText_reverse]; rfl
  | rule => rfl
  | _ => simp [step, Event.addTo]

/-- The end of formatting that is innermost closes it. -/
theorem step_closing (kind : Formatting) (content before : List Run)
    (outer : List (Formatting × List Run))
    : step { current := content.reverse, outer := (kind, before.reverse) :: outer }
        (.finish kind.closing)
      = { current := (before ++ [kind.run content]).reverse, outer } := by
  simp [step, close]

/-- The end of a container that is no formatting closes none, whichever is innermost. -/
theorem step_transparent (reading : Reading) : reading.step (.finish .other) = reading := by
  have open_ (frame : Formatting × List Run) : frame.1.closing ≠ .other := by
    cases frame.1 <;> exact nofun
  rw [step]
  split
  · rename_i same
    obtain ⟨frame, _, other⟩ := Option.map_eq_some_iff.mp same
    exact (open_ frame other).elim
  · rfl

open Event Tree

mutual

/-- The events of a part add its runs to those of the innermost formatting, and leave what encloses
that as it was.  By recursion over the part; the end of a container meets the formatting that was
innermost at its start.
-/
theorem foldl_events (tree : Tree) (runs : List Run) (outer : List (Formatting × List Run))
    : tree.events.foldl step { current := runs.reverse, outer }
      = { current := (tree.addTo runs).reverse, outer } := by
  cases tree with
  | single event alone => exact step_single alone runs outer
  | container enclosing content =>
      rw [events, List.foldl_cons, List.foldl_append, List.foldl_cons, List.foldl_nil]
      cases enclosing with
      | formatting kind =>
          have inside := foldl_eventsOfAll content [] ((kind, runs.reverse) :: outer)
          rw [step, ← List.reverse_nil, inside, Container.closing, step_closing, Tree.addTo]
      | paragraph =>
          rw [step, addParagraph_reverse, foldl_eventsOfAll content, Container.closing,
            step_transparent, Tree.addTo]
      | other =>
          rw [step, foldl_eventsOfAll content, Container.closing, step_transparent, Tree.addTo]
termination_by sizeOf tree

theorem foldl_eventsOfAll (forest : List Tree) (runs : List Run)
    (outer : List (Formatting × List Run))
    : (eventsOfAll forest).foldl step { current := runs.reverse, outer }
      = { current := (addAllTo runs forest).reverse, outer } := by
  cases forest with
  | nil => rfl
  | cons tree rest =>
      rw [eventsOfAll, List.foldl_append, foldl_events tree, foldl_eventsOfAll rest, addAllTo]
termination_by sizeOf forest

end

end Reading

theorem ofEvents_eventsOfAll (forest : List Event.Tree)
    : ofEvents (Event.Tree.eventsOfAll forest) = Event.Tree.runs forest := by
  have read := Reading.foldl_eventsOfAll forest [] []
  rw [List.reverse_nil] at read
  rw [ofEvents, Reading.empty, read, Reading.finish, List.reverse_reverse, Event.Tree.runs]

end Run

-----------------------------------------------------------------------------------------
-- Markdown
-----------------------------------------------------------------------------------------

namespace Markdown

open Event

theorem enclosed_nested (container : Container) {content : List Event} (nested : Nested content)
    : Nested (enclosed container content) :=
  .container container nested .nil

mutual

theorem Inline.events_nested (value : Inline) : Nested value.events := by
  cases value with
  | formatted kind content =>
      exact enclosed_nested (.formatting kind) (Inline.eventsOfAll_nested content)
  | image content => exact enclosed_nested .other (Inline.eventsOfAll_nested content)
  | _ => exact .single trivial .nil
termination_by sizeOf value

theorem Inline.eventsOfAll_nested (values : List Inline)
    : Nested (Inline.eventsOfAll values) := by
  cases values with
  | nil => exact .nil
  | cons value rest => exact (Inline.events_nested value).append (Inline.eventsOfAll_nested rest)
termination_by sizeOf values

end

theorem closingText_nested (source : Source) : Nested (closingText source) := by
  rw [closingText]
  split
  · exact .nil
  · exact .single trivial .nil

mutual

theorem Block.events_nested (definitions : Definitions) (inTight : Bool) (allowance : Nat)
    (block : Block)
    : Nested (Block.events definitions inTight allowance block).1 := by
  cases block with
  | paragraph source =>
      have inside : Nested (source.events definitions allowance).1 :=
        Inline.eventsOfAll_nested _
      cases inTight with
      | true => exact inside
      | false => exact enclosed_nested .paragraph inside
  | heading source closed =>
      have inside : Nested (source.events definitions allowance).1 :=
        Inline.eventsOfAll_nested _
      refine enclosed_nested .other (inside.append ?_)
      cases closed with
      | true => exact closingText_nested source
      | false => exact .nil
  | code text =>
      refine enclosed_nested .other ?_
      split
      · exact .nil
      · exact .single trivial .nil
  | html text => exact enclosed_nested .other (.single trivial .nil)
  | rule => exact .single trivial .nil
  | quote content =>
      exact enclosed_nested .other (Block.eventsOfAll_nested definitions false allowance content)
  | item content =>
      exact enclosed_nested .other (Block.eventsOfAll_nested definitions inTight allowance content)
  | list tight items =>
      exact enclosed_nested .other (Block.eventsOfAll_nested definitions tight allowance items)
termination_by sizeOf block

theorem Block.eventsOfAll_nested (definitions : Definitions) (inTight : Bool) (allowance : Nat)
    (blocks : List Block)
    : Nested (Block.eventsOfAll definitions inTight allowance blocks).1 := by
  cases blocks with
  | nil => exact .nil
  | cons block rest =>
      exact (Block.events_nested definitions inTight allowance block).append
        (Block.eventsOfAll_nested definitions inTight _ rest)
termination_by sizeOf blocks

end

/-- The events of markdown text are nested. -/
theorem eventsOf_nested (content : String) : Nested (eventsOf content) :=
  Block.eventsOfAll_nested _ false _ _

end Markdown

-----------------------------------------------------------------------------------------
-- The runs of nested streams
-----------------------------------------------------------------------------------------

namespace Run

open Event.Tree

/-- Nested streams are read as they are nested.  The stream is that of one forest, the runs that are
read from it are those of the forest, and so are the runs of any markdown text with that stream of
events.
-/
theorem ofEvents_nested {events : List Event} (nested : Event.Nested events)
    : ∃ forest,
        eventsOfAll forest = events
        ∧ (∀ other, eventsOfAll other = events → other = forest)
        ∧ ofEvents events = runs forest
        ∧ ∀ content, Markdown.eventsOf content = events → ofMarkdown content = runs forest := by
  obtain ⟨forest, rfl⟩ := exists_forest nested
  refine ⟨forest, rfl, fun other same => eventsOfAll_injective same,
    ofEvents_eventsOfAll forest, ?_⟩
  intro content same
  rw [ofMarkdown, same, ofEvents_eventsOfAll]

/-- Two paragraphs in a quote: strong text in strong text beside an image, and raw markup before
text.
-/
def quotedForest : List Event.Tree :=
  [container .other
    [container .paragraph
      [container (.formatting .strong)
        [single (.text "a") trivial,
          container (.formatting .strong) [single (.code "b") trivial],
          container .other [single (.text "c") trivial]],
        single (.html "<i>") trivial,
        single (.text "d") trivial],
      container .paragraph [single .rule trivial, single (.text "e") trivial]]]

/-- The quoted stream is nested, and its runs are those of the forest.  Witness: evaluation of the
runs of the forest.
-/
theorem quotedForest_ofEvents
    : Event.Nested (eventsOfAll quotedForest)
      ∧ ofEvents (eventsOfAll quotedForest)
        = [.strong [.text "a", .strong [.code "b"], .text "c"], .text "<i>d", .hardBreak,
            .text "e"] := by
  have nested := eventsOfAll_nested quotedForest
  obtain ⟨forest, _, unique, read, _⟩ := ofEvents_nested nested
  rw [read, ← unique quotedForest rfl]
  exact ⟨nested, rfl⟩

end Run

end MessageCard
