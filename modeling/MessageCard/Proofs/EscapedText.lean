import Mathlib.Data.List.Basic
import Mathlib.Tactic.SplitIfs
import MessageCard.Node.Html

/-! Escaped texts.  Whatever a string holds, its escaped form has none of the characters that the
markup gives a meaning, but for those that start entities.  Widths are the one thing that is written
without a string of the tree; they have nothing to escape, and images are written with them as they
are.
-/

namespace MessageCard.Html

-----------------------------------------------------------------------------------------
-- Words that start with a mark
-----------------------------------------------------------------------------------------

/-- Wherever the mark stands in the text, one of the words stands. -/
def Starts (mark : Char) (Word : List Char → Prop) (text : List Char) : Prop :=
  ∀ after, mark :: after <:+ text → ∃ word, Word word ∧ word <+: mark :: after

variable {mark : Char} {Word : List Char → Prop} {text rest : List Char}

theorem Starts.of_not_mem (absent : mark ∉ text) : Starts mark Word text := by
  intro after suffix
  exact absurd (suffix.subset List.mem_cons_self) absent

/-- A word that starts with the mark may be put before a text, if the mark stands there only. -/
theorem Starts.of_word (word : Word (mark :: rest)) (once : mark ∉ rest)
    : Starts mark Word (mark :: rest) := by
  intro after suffix
  rcases List.suffix_cons_iff.mp suffix with whole | within
  · exact ⟨mark :: rest, word, whole ▸ List.prefix_rfl⟩
  · exact Starts.of_not_mem once after within

/-- By induction over the first text: a word that stands there still does when more text follows. -/
theorem Starts.append {other : List Char} (first : Starts mark Word text)
    (second : Starts mark Word other)
    : Starts mark Word (text ++ other) := by
  induction text with
  | nil => exact second
  | cons c text ih =>
      intro after suffix
      rcases List.suffix_cons_iff.mp suffix with whole | within
      · obtain ⟨rfl, rfl⟩ := List.cons.inj whole
        obtain ⟨word, isWord, stands⟩ := first text List.suffix_rfl
        exact ⟨word, isWord, stands.trans (List.prefix_append (mark :: text) other)⟩
      · refine ih ?_ after within
        exact fun after suffix => first after (suffix.trans (List.suffix_cons c text))

theorem Starts.flatMap {α : Type} {write : α → List Char} {items : List α}
    (each : ∀ item ∈ items, Starts mark Word (write item))
    : Starts mark Word (items.flatMap write) := by
  induction items with
  | nil => exact .of_not_mem List.not_mem_nil
  | cons item rest ih =>
      rw [List.flatMap_cons]
      refine (each item List.mem_cons_self).append (ih ?_)
      exact fun other member => each other (List.mem_cons_of_mem _ member)

-----------------------------------------------------------------------------------------
-- Escaped texts
-----------------------------------------------------------------------------------------

/-- That a text has none of some characters is found by looking at each of its characters. -/
theorem not_mem_of_all {text characters : List Char}
    (none : (text.all fun c => !characters.contains c) = true)
    : ∀ c ∈ text, c ∉ characters := by
  simpa using none

/-- The characters that are escaped. -/
def marks : List Char :=
  ['&', '<', '>', '"', '\'']

/-- What stands for the characters that are escaped. -/
def entities : List (List Char) :=
  ["&amp;".toList, "&lt;".toList, "&gt;".toList, "&quot;".toList, "&#39;".toList]

/-- A character is written as an entity or as it is, if it is none of those escaped. -/
theorem escapedChar_cases (c : Char)
    : escapedChar c ∈ entities ∨ escapedChar c = [c] ∧ c ∉ marks := by
  simp only [escapedChar]
  split_ifs <;> simp_all [entities, marks]

theorem entity_clean {entity : List Char} (member : entity ∈ entities)
    : ∀ c ∈ entity, c ∉ ['<', '>', '"', '\''] := by
  simp only [entities, List.mem_cons, List.not_mem_nil, or_false] at member
  rcases member with rfl | rfl | rfl | rfl | rfl <;> exact not_mem_of_all (by decide)

theorem entity_starts {entity : List Char} (member : entity ∈ entities)
    : Starts '&' (· ∈ entities) entity := by
  have shape : ∃ rest, entity = '&' :: rest ∧ '&' ∉ rest := by
    simp only [entities, List.mem_cons, List.not_mem_nil, or_false] at member
    rcases member with rfl | rfl | rfl | rfl | rfl <;> exact ⟨_, rfl, by decide⟩
  obtain ⟨rest, rfl, once⟩ := shape
  exact .of_word member once

/-- An escaped text has no character of the markup but those that start entities. -/
theorem escape_clean {value : String} {c : Char} (member : c ∈ (escape value).toList)
    : c ∉ ['<', '>', '"', '\''] := by
  rw [escape, String.toList_ofList, List.mem_flatMap] at member
  obtain ⟨original, _, written⟩ := member
  rcases escapedChar_cases original with entity | ⟨same, plain⟩
  · exact entity_clean entity c written
  · rw [same, List.mem_singleton] at written
    subst written
    exact fun marked => plain (List.mem_cons_of_mem _ marked)

theorem escape_starts (value : String) : Starts '&' (· ∈ entities) (escape value).toList := by
  rw [escape, String.toList_ofList]
  refine .flatMap fun c _ => ?_
  rcases escapedChar_cases c with entity | ⟨same, plain⟩
  · exact entity_starts entity
  · rw [same]
    refine .of_not_mem fun marked => plain ?_
    rw [← List.mem_singleton.mp marked]
    exact List.mem_cons_self

/-- A text without the characters that are escaped is its own escaped form. -/
theorem escape_of_plain {value : String} (plain : ∀ c ∈ value.toList, c ∉ marks)
    : escape value = value := by
  have each : value.toList.flatMap escapedChar = value.toList.flatMap fun c => [c] := by
    refine List.flatMap_congr fun c member => ?_
    have unmarked := plain c member
    simp only [marks, List.mem_cons, List.not_mem_nil, or_false, not_or] at unmarked
    simp [escapedChar, unmarked]
  rw [escape, each, List.flatMap_singleton', String.ofList_toList]

-----------------------------------------------------------------------------------------
-- Widths
-----------------------------------------------------------------------------------------

/-- The digits before and after the point of a decimal are digits, cases on where the point is. -/
theorem places_digits (d : Decimal)
    : (∀ c ∈ d.places.1, c.isDigit = true) ∧ ∀ c ∈ d.places.2, c.isDigit = true := by
  have digits : ∀ c ∈ Decimal.digitsOf d.digits, c.isDigit = true := fun c member =>
    Nat.isDigit_of_mem_toDigits (by decide) (by decide) member
  have zeros (count : Nat) : ∀ c ∈ List.replicate count '0', c.isDigit = true := by
    intro c member
    rw [List.eq_of_mem_replicate member]
    decide
  simp only [Decimal.places]
  split
  · refine ⟨fun c member => ?_, by simp⟩
    rcases List.mem_append.mp member with digit | zero
    · exact digits c digit
    · exact zeros _ c zero
  · split
    · refine ⟨by simp, fun c member => ?_⟩
      rcases List.mem_append.mp member with zero | digit
      · exact zeros _ c zero
      · exact digits c digit
    · refine ⟨fun c member => ?_, fun c member => ?_⟩
      · exact digits c (List.mem_of_mem_take member)
      · exact digits c (List.mem_of_mem_drop member)

theorem positional_plain (d : Decimal) : ∀ c ∈ d.positional [], c ∉ marks := by
  obtain ⟨front, behind⟩ := places_digits d
  have digit {c : Char} (isDigit : c.isDigit = true) : c ∉ marks := by
    intro member
    simp only [marks, List.mem_cons, List.not_mem_nil, or_false] at member
    rcases member with rfl | rfl | rfl | rfl | rfl <;> simp at isDigit
  intro c member
  rcases List.mem_append.mp member with first | last
  · split at first
    · rw [List.mem_singleton.mp first]
      decide
    · exact digit (front c first)
  · split at last
    · cases last
    · rcases List.mem_cons.mp last with rfl | after
      · decide
      · exact digit (behind c after)

theorem plain_unmarked (width : Double) : ∀ c ∈ width.plain.toList, c ∉ marks := by
  have unsigned := positional_plain (Decimal.shortest .greater width)
  rw [Double.plain]
  split_ifs
  · exact not_mem_of_all (by decide)
  · intro c member
    rw [Double.signed, String.toList_ofList] at member
    split at member
    · rcases List.mem_cons.mp member with rfl | digits
      · decide
      · exact unsigned c digits
    · exact unsigned c member
  · exact not_mem_of_all (by decide)
  · exact not_mem_of_all (by decide)

/-- A width is written as it is: its text has nothing to escape. -/
theorem widthStyle_escape (width : Double)
    : escape (widthStyle width).2 = (widthStyle width).2 := by
  refine escape_of_plain fun c member => ?_
  simp only [widthStyle, String.toList_append, List.mem_append] at member
  rcases member with (before | inside) | after
  · exact not_mem_of_all (by decide) c before
  · exact plain_unmarked width c inside
  · exact not_mem_of_all (by decide) c after

/-- The markup of an image: its strings stand there escaped, and its width stands there as it is. -/
theorem html_of_image {node : Node} (isImage : node.kind = .img ∨ node.kind = .embeddedImg)
    : node.html
      = "<img class=\"" ++ escape (" ".intercalate node.classes)
        ++ "\" src=\"" ++ escape (locatorOf node.content)
        ++ "\" alt=\"" ++ escape (node.attrs.alt.getD "") ++ "\""
        ++ (node.attrs.customWidth.elim "" fun width =>
              " style=\"max-width: " ++ width.plain ++ "px\"")
        ++ ">" := by
  obtain ⟨kind, classes, content, attrs⟩ := node
  have written : ofNode ⟨kind, classes, content, attrs⟩
      = [.start .img (imageAttributes classes content attrs)] := by
    rcases isImage with rfl | rfl <;> rw [ofNode]
  rw [Node.html, written]
  apply String.toList_inj.mp
  cases width : attrs.customWidth with
  | none =>
      simp [write, Token.write, imageAttributes, width, attributeText, classValue, Tag.name,
        Attribute.name]
  | some value =>
      have name : (widthStyle value).1 = .style := rfl
      have plain : escape (widthStyle value).2 = "max-width: " ++ value.plain ++ "px" :=
        widthStyle_escape value
      simp [write, Token.write, imageAttributes, width, attributeText, classValue, Tag.name,
        Attribute.name, name, plain]

end MessageCard.Html
