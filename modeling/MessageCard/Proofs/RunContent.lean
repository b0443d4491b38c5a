import Mathlib.Data.List.Chain
import Mathlib.Data.List.Forall2
import MessageCard.Proofs.StreamCollection

/-! What the runs of any stream of events hold.  Read in pre-order they have the text, the code,
the formatting and the breaks of the stream, in its order and each once.  In no list does text
stand right behind text, and a paragraph adds at most a hard break, never the first run of a list.
-/

namespace MessageCard

-----------------------------------------------------------------------------------------
-- Marks
-----------------------------------------------------------------------------------------

/-- What a reader of markup comes upon: a letter, a piece of code, formatting that opens, or the
break of a line.
-/
inductive Mark
  | letter (c : Char)
  | code (value : String)
  | opening (kind : Formatting)
  | softBreak
  | hardBreak
deriving DecidableEq

/-- The letters of a mark. -/
def Mark.letters : Mark → List Char
  | letter c => [c]
  | code value => value.toList
  | _ => []

/-- The marks of an event. -/
def Event.marks : Event → List Mark
  | start (.formatting kind) => [.opening kind]
  | text value => value.toList.map .letter
  | html value => value.toList.map .letter
  | code value => [.code value]
  | softBreak => [.softBreak]
  | hardBreak => [.hardBreak]
  | _ => []

/-- The text or the code of an event. -/
def Event.payload : Event → String
  | text value => value
  | html value => value
  | code value => value
  | _ => ""

/-- What an event may add: its own marks, or the hard break before a paragraph. -/
inductive Event.Adds : Event → List Mark → Prop
  | own (event : Event) : event.Adds event.marks
  | newLine : Adds (.start .paragraph) [.hardBreak]

/-- The letters of an event are those of its text or its code. -/
theorem Event.marks_letters (event : Event)
    : event.marks.flatMap Mark.letters = event.payload.toList := by
  have letters (value : String)
      : (value.toList.map Mark.letter).flatMap Mark.letters = value.toList := by
    rw [List.flatMap_map]
    exact List.flatMap_singleton' _
  cases event with
  | start container => cases container <;> rfl
  | text value => exact letters value
  | html value => exact letters value
  | code value => exact List.append_nil _
  | _ => rfl

/-- A hard break has no letters. -/
theorem Mark.letters_filter (marks : List Mark)
    : (marks.filter (· ≠ .hardBreak)).flatMap letters = marks.flatMap letters := by
  induction marks with
  | nil => rfl
  | cons mark rest ih =>
      rw [List.flatMap_cons, ← ih]
      cases mark <;> rfl

/-- Nothing but hard breaks is added to the marks of the events. -/
theorem Event.Adds.kept {events : List Event} {parts : List (List Mark)}
    (adds : List.Forall₂ Event.Adds events parts)
    : parts.flatten.filter (· ≠ .hardBreak)
      = (events.flatMap Event.marks).filter (· ≠ .hardBreak) := by
  induction adds with
  | nil => rfl
  | cons adds _ ih =>
      rw [List.flatten_cons, List.flatMap_cons, List.filter_append, List.filter_append, ih]
      cases adds <;> rfl

namespace Run

/-- The marks of a run itself, without those of the runs in it. -/
def marks : Run → List Mark
  | text value => value.toList.map .letter
  | strong _ => [.opening .strong]
  | emphasis _ => [.opening .emphasis]
  | strikethrough _ => [.opening .strikethrough]
  | code value => [.code value]
  | link href _ => [.opening (.link href)]
  | softBreak => [.softBreak]
  | hardBreak => [.hardBreak]

/-- The text or the code of a run. -/
def leaf : Run → String
  | text value => value
  | code value => value
  | _ => ""

mutual

/-- A run and the runs in it, each before its content. -/
def preorder : Run → List Run
  | text value => [text value]
  | strong content => strong content :: preorderOfAll content
  | emphasis content => emphasis content :: preorderOfAll content
  | strikethrough content => strikethrough content :: preorderOfAll content
  | code value => [code value]
  | link href content => link href content :: preorderOfAll content
  | softBreak => [softBreak]
  | hardBreak => [hardBreak]

/-- The runs of a list and the runs in them, in pre-order. -/
def preorderOfAll : List Run → List Run
  | [] => []
  | run :: rest => run.preorder ++ preorderOfAll rest

end

/-- The marks of runs and of the runs in them, in pre-order. -/
def allMarks (runs : List Run) : List Mark :=
  (preorderOfAll runs).flatMap marks

theorem marks_letters (run : Run) : run.marks.flatMap Mark.letters = run.leaf.toList := by
  cases run with
  | text value => exact (Event.text value).marks_letters
  | code value => exact List.append_nil _
  | _ => rfl

theorem preorderOfAll_append (runs more : List Run)
    : preorderOfAll (runs ++ more) = preorderOfAll runs ++ preorderOfAll more := by
  induction runs with
  | nil => rfl
  | cons run rest ih =>
      rw [List.cons_append, preorderOfAll, preorderOfAll, ih, List.append_assoc]

@[simp] theorem allMarks_append (runs more : List Run)
    : allMarks (runs ++ more) = allMarks runs ++ allMarks more := by
  rw [allMarks, preorderOfAll_append, List.flatMap_append, allMarks, allMarks]

theorem allMarks_letters (runs : List Run)
    : (allMarks runs).flatMap Mark.letters
      = (String.join ((preorderOfAll runs).map leaf)).toList := by
  rw [allMarks, List.flatMap_assoc, String.toList_join, List.flatMap_map]
  exact List.flatMap_congr fun run _ => run.marks_letters

theorem allMarks_formatting (kind : Formatting) (content : List Run)
    : allMarks [kind.run content] = .opening kind :: allMarks content := by
  cases kind <;> simp [allMarks, Formatting.run, preorderOfAll, preorder, marks]

/-- Text joins the text that stands last, or is a run of its own behind another run or none. -/
theorem extended_cases (runs : List Run) (value : String)
    : (∃ before last,
        runs = before ++ [text last] ∧ extended runs value = before ++ [text (last ++ value)])
      ∨ (∀ last, runs.getLast? ≠ some (text last))
        ∧ extended runs value = runs ++ [text value] := by
  rw [extended]
  split
  · rename_i last found
    obtain ⟨before, rfl⟩ := List.getLast?_eq_some_iff.mp found
    exact .inl ⟨before, last, rfl, by rw [List.dropLast_concat]⟩
  · rename_i other
    exact .inr ⟨fun last found => other last found, rfl⟩

theorem allMarks_extended (runs : List Run) (value : String)
    : allMarks (extended runs value) = allMarks runs ++ value.toList.map .letter := by
  have single (value : String) : allMarks [text value] = value.toList.map .letter := by
    simp [allMarks, preorderOfAll, preorder, marks]
  rcases extended_cases runs value with ⟨before, last, rfl, joined⟩ | ⟨_, added⟩
  · rw [joined, allMarks_append, allMarks_append, single, single, String.toList_append,
      List.map_append, List.append_assoc]
  · rw [added, allMarks_append, single]

theorem allMarks_addTo {event : Event} (alone : event.IsSingle) (runs : List Run)
    : allMarks (event.addTo runs) = allMarks runs ++ event.marks := by
  cases event with
  | start container => exact alone.elim
  | finish closing => exact alone.elim
  | text value => exact allMarks_extended runs value
  | html value => exact allMarks_extended runs value
  | rule => exact (List.append_nil _).symm
  | _ => exact allMarks_append runs _

/-- A paragraph adds a hard break behind other runs, and nothing where there are none. -/
theorem broken_cases (runs : List Run)
    : runs = [] ∧ broken runs = [] ∨ runs ≠ [] ∧ broken runs = runs ++ [.hardBreak] := by
  cases runs with
  | nil => exact .inl ⟨rfl, rfl⟩
  | cons run rest => exact .inr ⟨List.cons_ne_nil run rest, rfl⟩

/-- Each event adds its marks behind those of the events before it, and a paragraph at most a hard
break.  By induction over the events collected.
-/
theorem Collects.adds {closing : Option Closing} {runs final : List Run} {taken rest : List Event}
    (collects : Collects closing runs taken rest final)
    : ∃ parts,
        List.Forall₂ Event.Adds taken parts ∧ allMarks final = allMarks runs ++ parts.flatten := by
  induction collects with
  | exhausted => exact ⟨[], .nil, (List.append_nil _).symm⟩
  | closed => exact ⟨[[]], .cons (.own _) .nil, (List.append_nil _).symm⟩
  | unmatched _ _ ih =>
      obtain ⟨parts, adds, same⟩ := ih
      exact ⟨[] :: parts, .cons (.own _) adds, same⟩
  | transparent _ ih =>
      obtain ⟨parts, adds, same⟩ := ih
      exact ⟨[] :: parts, .cons (.own _) adds, same⟩
  | @single closing event runs final taken rest alone _ ih =>
      obtain ⟨parts, adds, same⟩ := ih
      refine ⟨event.marks :: parts, .cons (.own event) adds, ?_⟩
      rw [same, allMarks_addTo alone, List.flatten_cons, List.append_assoc]
  | @paragraph closing runs final taken rest _ ih =>
      obtain ⟨parts, adds, same⟩ := ih
      rcases broken_cases runs with ⟨rfl, none⟩ | ⟨_, broken⟩
      · exact ⟨[] :: parts, .cons (.own _) adds, by rw [same, none]; rfl⟩
      · refine ⟨[.hardBreak] :: parts, .cons .newLine adds, ?_⟩
        rw [same, broken, allMarks_append, List.flatten_cons, List.append_assoc]
        rfl
  | formatting kind _ _ within more =>
      obtain ⟨inner, addsInner, content⟩ := within
      obtain ⟨parts, adds, same⟩ := more
      refine ⟨[.opening kind] :: (inner ++ parts),
        .cons (.own _) (List.rel_append addsInner adds), ?_⟩
      rw [same, allMarks_append, allMarks_formatting, content]
      simp [allMarks, preorderOfAll]

-----------------------------------------------------------------------------------------
-- Lists at every level
-----------------------------------------------------------------------------------------

/-- A list of runs at some level: the list itself, or a list in the content of its formatting. -/
inductive HasList : List Run → List Run → Prop
  | itself {runs : List Run} : HasList runs runs
  | inside {runs content list : List Run} {kind : Formatting} (listed : kind.run content ∈ runs)
    (below : HasList content list)
    : HasList runs list

theorem HasList.trans {runs middle list : List Run} (outer : HasList runs middle)
    (inner : HasList middle list)
    : HasList runs list := by
  induction outer with
  | itself => exact inner
  | inside listed _ ih => exact .inside listed (ih inner)

/-- The lists at every level have a property. -/
def AtEvery (p : List Run → Prop) (runs : List Run) : Prop :=
  ∀ list, HasList runs list → p list

variable {p : List Run → Prop}

theorem AtEvery.nil (empty : p []) : AtEvery p [] := by
  intro list below
  cases below with
  | itself => exact empty
  | inside listed => cases listed

/-- A property of every list is kept when the list itself has it, and the content of formatting
that is new.
-/
theorem AtEvery.of_listed {runs next : List Run} (every : AtEvery p runs) (own : p next)
    (listed : ∀ (kind : Formatting) (content : List Run),
      kind.run content ∈ next → kind.run content ∈ runs ∨ AtEvery p content)
    : AtEvery p next := by
  intro list below
  cases below with
  | itself => exact own
  | inside member below =>
      rcases listed _ _ member with old | new
      · exact every list (.inside old below)
      · exact new list below

/-- Where a run that is no formatting is added, all formatting was there before. -/
theorem listed_of_concat {runs content : List Run} {run : Run} {kind : Formatting}
    (listed : kind.run content ∈ runs ++ [run]) (plain : ∀ content, kind.run content ≠ run)
    : kind.run content ∈ runs :=
  (List.mem_append.mp listed).resolve_right fun new => plain content (List.mem_singleton.mp new)

/-- An event by itself adds no formatting. -/
theorem listed_of_addTo {event : Event} {runs content : List Run} {kind : Formatting}
    (listed : kind.run content ∈ event.addTo runs)
    : kind.run content ∈ runs := by
  have extended {value : String} (listed : kind.run content ∈ extended runs value)
      : kind.run content ∈ runs := by
    rcases extended_cases runs value with ⟨before, last, rfl, joined⟩ | ⟨_, added⟩
    · rw [joined] at listed
      exact List.mem_append_left _ (listed_of_concat listed (by cases kind <;> exact nofun))
    · rw [added] at listed
      exact listed_of_concat listed (by cases kind <;> exact nofun)
  cases event with
  | text value => exact extended listed
  | html value => exact extended listed
  | start container => exact listed
  | finish closing => exact listed
  | rule => exact listed
  | _ => exact listed_of_concat listed (by cases kind <;> exact nofun)

theorem listed_of_broken {runs content : List Run} {kind : Formatting}
    (listed : kind.run content ∈ broken runs)
    : kind.run content ∈ runs := by
  rcases broken_cases runs with ⟨rfl, none⟩ | ⟨_, broken⟩
  · rw [none] at listed
    exact listed
  · rw [broken] at listed
    exact listed_of_concat listed (by cases kind <;> exact nofun)

/-- A property of the empty list that every addition to a list keeps is one of every list that is
collected.  By induction over the events collected.
-/
theorem Collects.atEvery {closing : Option Closing} {runs final : List Run}
    {taken rest : List Event} (collects : Collects closing runs taken rest final) (empty : p [])
    (alone : ∀ event ∈ taken, ∀ runs, p runs → p (event.addTo runs))
    (paragraph : ∀ runs, p runs → p (broken runs))
    (formatting : ∀ (kind : Formatting) content runs, p runs → p (runs ++ [kind.run content]))
    (every : AtEvery p runs)
    : AtEvery p final := by
  induction collects with
  | exhausted => exact every
  | closed => exact every
  | unmatched _ _ ih => exact ih (fun event later => alone event (.tail _ later)) every
  | transparent _ ih => exact ih (fun event later => alone event (.tail _ later)) every
  | single _ _ ih =>
      refine ih (fun event later => alone event (.tail _ later)) (every.of_listed ?_ ?_)
      · exact alone _ (.head _) _ (every _ .itself)
      · exact fun kind content listed => .inl (listed_of_addTo listed)
  | paragraph _ ih =>
      refine ih (fun event later => alone event (.tail _ later)) (every.of_listed ?_ ?_)
      · exact paragraph _ (every _ .itself)
      · exact fun kind content listed => .inl (listed_of_broken listed)
  | formatting kind _ _ within more =>
      have content := within
        (fun event inner => alone event (.tail _ (List.mem_append_left _ inner))) (.nil empty)
      refine more (fun event later => alone event (.tail _ (List.mem_append_right _ later)))
        (every.of_listed (formatting kind _ _ (every _ .itself)) ?_)
      intro other inner listed
      rcases List.mem_append.mp listed with old | new
      · exact .inl old
      · have same := List.mem_singleton.mp new
        cases other <;> cases kind <;> cases same <;> exact .inr content

-----------------------------------------------------------------------------------------
-- Text and breaks in a list
-----------------------------------------------------------------------------------------

/-- Whether a run is text. -/
def isText : Run → Bool
  | text _ => true
  | _ => false

/-- No text stands right behind text. -/
def TextsApart (runs : List Run) : Prop :=
  runs.IsChain fun first second => ¬ (first.isText ∧ second.isText)

theorem TextsApart.concat {runs : List Run} {run : Run} (apart : TextsApart runs)
    (other : ∀ last ∈ runs.getLast?, ¬ (last.isText ∧ run.isText))
    : TextsApart (runs ++ [run]) := by
  refine List.isChain_append.mpr ⟨apart, .singleton run, ?_⟩
  intro last found first same
  cases same
  exact other last found

theorem TextsApart.concat_of_not_isText {runs : List Run} {run : Run} (apart : TextsApart runs)
    (plain : run.isText = false)
    : TextsApart (runs ++ [run]) :=
  apart.concat fun _ _ both => Bool.false_ne_true (plain.symm.trans both.2)

/-- Text that comes next is joined to text that stands last, and so never stands behind it. -/
theorem TextsApart.extended {runs : List Run} (apart : TextsApart runs) (value : String)
    : TextsApart (extended runs value) := by
  rcases extended_cases runs value with ⟨before, last, rfl, joined⟩ | ⟨other, added⟩
  · rw [joined]
    obtain ⟨front, _, between⟩ := List.isChain_append.mp apart
    exact TextsApart.concat front fun before found => between before found (.text last) rfl
  · rw [added]
    refine apart.concat ?_
    intro last found both
    cases last with
    | text last => exact other last found
    | _ => cases both.1

theorem TextsApart.addTo {runs : List Run} (apart : TextsApart runs) (event : Event)
    : TextsApart (event.addTo runs) := by
  cases event with
  | text value => exact apart.extended value
  | html value => exact apart.extended value
  | start container => exact apart
  | finish closing => exact apart
  | rule => exact apart
  | _ => exact apart.concat_of_not_isText rfl

theorem TextsApart.broken {runs : List Run} (apart : TextsApart runs)
    : TextsApart (broken runs) := by
  rcases broken_cases runs with ⟨_, none⟩ | ⟨_, broken⟩
  · rw [none]
    exact .nil
  · rw [broken]
    exact apart.concat_of_not_isText rfl

/-- The first run is no hard break. -/
def StartsUnbroken (runs : List Run) : Prop :=
  runs.head? ≠ some .hardBreak

theorem StartsUnbroken.concat {runs : List Run} {run : Run} (unbroken : StartsUnbroken runs)
    (other : runs = [] → run ≠ .hardBreak)
    : StartsUnbroken (runs ++ [run]) := by
  cases runs with
  | nil => exact fun found => other rfl (Option.some.inj found)
  | cons first rest => exact unbroken

theorem StartsUnbroken.extended {runs : List Run} (unbroken : StartsUnbroken runs) (value : String)
    : StartsUnbroken (extended runs value) := by
  rcases extended_cases runs value with ⟨before, last, rfl, joined⟩ | ⟨_, added⟩
  · rw [joined]
    refine StartsUnbroken.concat ?_ fun _ => nofun
    cases before with
    | nil => exact nofun
    | cons first rest => exact unbroken
  · rw [added]
    exact unbroken.concat fun _ => nofun

theorem StartsUnbroken.addTo {runs : List Run} (unbroken : StartsUnbroken runs) {event : Event}
    (other : event ≠ .hardBreak)
    : StartsUnbroken (event.addTo runs) := by
  cases event with
  | text value => exact unbroken.extended value
  | html value => exact unbroken.extended value
  | start container => exact unbroken
  | finish closing => exact unbroken
  | rule => exact unbroken
  | hardBreak => exact (other rfl).elim
  | _ => exact unbroken.concat fun _ => nofun

/-- The hard break before a paragraph is never the first run of a list. -/
theorem StartsUnbroken.broken {runs : List Run} (unbroken : StartsUnbroken runs)
    : StartsUnbroken (broken runs) := by
  rcases broken_cases runs with ⟨_, none⟩ | ⟨some, broken⟩
  · rw [none]
    exact nofun
  · rw [broken]
    exact unbroken.concat fun empty => (some empty).elim

-----------------------------------------------------------------------------------------
-- Paragraphs in a stream
-----------------------------------------------------------------------------------------

/-- The list that is open after a stream of events, to which the next event adds. -/
def openList (events : List Event) : List Run :=
  (events.foldl Reading.step .empty).current.reverse

/-- The list of the innermost formatting is one of those that are read, by induction over the
formatting around it.
-/
theorem hasList_finish (current : List Run) (outer : List (Formatting × List Run))
    : HasList (Reading.finish current outer) current.reverse := by
  induction outer generalizing current with
  | nil => exact .itself
  | cons frame outer ih =>
      have listed
          : frame.1.run current.reverse ∈ (frame.1.run current.reverse :: frame.2).reverse :=
        List.mem_reverse.mpr (.head _)
      exact (ih _).trans (.inside listed .itself)

theorem hasList_openList (events : List Event) : HasList (ofEvents events) (openList events) :=
  hasList_finish _ _

/-- A paragraph that starts where the open list is empty adds nothing, elsewhere a hard break. -/
theorem ofEvents_paragraph (before after : List Event)
    : ofEvents (before ++ .start .paragraph :: after)
      = ofEvents
          (before ++ (if (openList before).isEmpty then [] else [.hardBreak]) ++ after) := by
  rw [ofEvents_eq_result, ofEvents_eq_result, List.foldl_append, List.foldl_cons, List.foldl_append,
    List.foldl_append, openList]
  congr 2
  obtain ⟨current, outer⟩ := before.foldl Reading.step .empty
  cases current with
  | nil => rfl
  | cons run rest =>
      rw [List.isEmpty_reverse]
      rfl

-----------------------------------------------------------------------------------------
-- The runs of any stream
-----------------------------------------------------------------------------------------

/-- What is read from a stream is all that is in it.  The events are collected to the last, in one
way only. In pre-order the text and the code are those of the stream, and so are all marks in
their order, where a paragraph may add a hard break.  No list has text right behind text.  A
paragraph counts as a hard break, or as nothing where the list that it starts in is empty; without
other hard breaks no list starts with one.
-/
theorem ofEvents_content (events : List Event)
    : Collects none [] events [] (ofEvents events)
      ∧ (∀ taken rest runs,
          taken ++ rest = events
          → Collects none [] taken rest runs
          → rest = [] ∧ runs = ofEvents events)
      ∧ String.join ((preorderOfAll (ofEvents events)).map leaf)
        = String.join (events.map Event.payload)
      ∧ (allMarks (ofEvents events)).filter (· ≠ .hardBreak)
        = (events.flatMap Event.marks).filter (· ≠ .hardBreak)
      ∧ (∃ parts, List.Forall₂ Event.Adds events parts ∧ allMarks (ofEvents events) = parts.flatten)
      ∧ (∀ list,
          HasList (ofEvents events) list
          → list.IsChain fun first second => ¬ (first.isText ∧ second.isText))
      ∧ (∀ before after,
          events = before ++ .start .paragraph :: after
          → HasList (ofEvents before) (openList before)
            ∧ ofEvents events
              = ofEvents
                  (before ++ (if (openList before).isEmpty then [] else [.hardBreak]) ++ after))
      ∧ (.hardBreak ∉ events
        → ∀ list, HasList (ofEvents events) list → list.head? ≠ some .hardBreak) := by
  have collects := collects_ofEvents events
  obtain ⟨parts, adds, added⟩ := collects.adds
  have same : allMarks (ofEvents events) = parts.flatten := added
  have kept := Event.Adds.kept adds
  rw [← same] at kept
  refine ⟨collects, ?unique, ?content, kept, ⟨parts, adds, same⟩, ?apart, ?paragraph, ?unbroken⟩
  case unique =>
    intro taken rest runs whole other
    obtain rfl := other.rest_eq_nil
    rw [← whole, List.append_nil, other.ofEvents_eq]
    exact ⟨rfl, rfl⟩
  case content =>
    apply String.toList_injective
    rw [← allMarks_letters, ← Mark.letters_filter, kept, Mark.letters_filter, List.flatMap_assoc,
      String.toList_join, List.flatMap_map]
    exact List.flatMap_congr fun event _ => event.marks_letters
  case apart =>
    exact collects.atEvery (p := TextsApart) .nil (fun event _ runs apart => apart.addTo event)
      (fun runs apart => apart.broken)
      (fun kind content runs apart => apart.concat_of_not_isText (by cases kind <;> rfl))
      (.nil .nil)
  case paragraph =>
    intro before after split
    rw [split]
    exact ⟨hasList_openList before, ofEvents_paragraph before after⟩
  case unbroken =>
    intro other
    refine collects.atEvery (p := StartsUnbroken) nofun ?_ (fun runs unbroken => unbroken.broken) ?_
      (.nil nofun)
    · intro event listed runs unbroken
      exact unbroken.addTo fun same => other (same ▸ listed)
    · intro kind content runs unbroken
      exact unbroken.concat fun _ => by cases kind <;> exact nofun

/-- An end without a start, raw markup behind text, two paragraphs in formatting that is never
closed, and a link in it.
-/
def looseStream : List Event :=
  [.finish .emphasis, .start .paragraph, .text "a", .html "<b>", .start (.formatting .strong),
    .start .paragraph, .code "c", .finish .link, .start .paragraph,
    .start (.formatting (.link "d")), .softBreak]

/-- The loose stream is read to its end, with the hard break of the second paragraph only.  Witness:
evaluation of the runs.
-/
theorem looseStream_content
    : ofEvents looseStream
        = [.text "a<b>", .strong [.code "c", .hardBreak, .link "d" [.softBreak]]]
      ∧ Collects none [] looseStream [] (ofEvents looseStream)
      ∧ String.join (looseStream.map Event.payload) = "a<b>c"
      ∧ String.join ((preorderOfAll (ofEvents looseStream)).map leaf) = "a<b>c"
      ∧ [Run.code "c", .hardBreak, .link "d" [.softBreak]].head? ≠ some .hardBreak := by
  obtain ⟨collects, _, content, _, _, _, _, unbroken⟩ := ofEvents_content looseStream
  have payload : String.join (looseStream.map Event.payload) = "a<b>c" := by decide
  have listed
      : Formatting.strong.run [.code "c", .hardBreak, .link "d" [.softBreak]]
        ∈ ofEvents looseStream :=
    .tail _ (.head _)
  exact ⟨rfl, collects, payload, content.trans payload,
    unbroken (by decide) _ (.inside listed .itself)⟩

end Run

end MessageCard
