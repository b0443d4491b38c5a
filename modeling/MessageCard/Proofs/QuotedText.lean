import Mathlib.Tactic.SplitIfs
import MessageCard.Text.Quoted

/-! Quoted texts can be read back.  The written forms of characters are told apart from what they
start, and none of them starts with the closing quote; so a quoted text ends where its closing quote
is, whatever follows.  It stays on one line.
-/

namespace MessageCard.Text

/-- A word that does not contain the delimiter after it can be read back, by induction over it. -/
theorem delimited_inj {α : Type} {delimiter : α} {word other rest more : List α}
    (clean : delimiter ∉ word) (otherClean : delimiter ∉ other)
    (same : word ++ delimiter :: rest = other ++ delimiter :: more)
    : word = other ∧ rest = more := by
  induction word generalizing other with
  | nil =>
      cases other with
      | nil => simpa using same
      | cons d other => simp [(List.cons.inj same).1] at otherClean
  | cons c word ih =>
      cases other with
      | nil => simp [(List.cons.inj same).1] at clean
      | cons d other =>
          obtain ⟨rfl, tail⟩ := List.cons.inj same
          obtain ⟨rfl, ended⟩ :=
            ih (List.not_mem_of_not_mem_cons clean) (List.not_mem_of_not_mem_cons otherClean) tail
          exact ⟨rfl, ended⟩

-----------------------------------------------------------------------------------------
-- Hexadecimal digits
-----------------------------------------------------------------------------------------

/-- By strong induction: a number from 16 on is written as a sixteenth of it, and a digit. -/
theorem mem_hexDigits {c : Char} {n : Nat} (member : c ∈ hexDigits n)
    : ∃ digit < 16, c = Nat.digitChar digit := by
  induction n using Nat.strongRecOn with
  | ind n ih =>
      rcases Nat.lt_or_ge n 16 with single | more
      · rw [hexDigits, Nat.toDigits_of_lt_base single, List.mem_singleton] at member
        exact ⟨n, single, member⟩
      · rw [hexDigits, Nat.toDigits_of_base_le (by decide) more] at member
        rcases List.mem_append.mp member with front | last
        · exact ih (n / 16) (by omega) front
        · exact ⟨n % 16, Nat.mod_lt n (by decide), List.mem_singleton.mp last⟩

/-- A character that is no hexadecimal digit is not among those of a number. -/
theorem not_mem_hexDigits {c : Char} (other : ∀ digit : Fin 16, c ≠ Nat.digitChar digit)
    (n : Nat)
    : c ∉ hexDigits n := by
  intro member
  obtain ⟨digit, below, same⟩ := mem_hexDigits member
  exact other ⟨digit, below⟩ same

/-- The number that hexadecimal digits spell. -/
def hexValue (digits : List Char) : Nat :=
  digits.foldl (fun value c => 16 * value + ((List.range 16).map Nat.digitChar).idxOf c) 0

/-- The digits of a number spell it, by strong induction as above. -/
theorem hexValue_hexDigits (n : Nat) : hexValue (hexDigits n) = n := by
  have digit : ∀ d : Fin 16, ((List.range 16).map Nat.digitChar).idxOf (Nat.digitChar d) = d := by
    decide
  induction n using Nat.strongRecOn with
  | ind n ih =>
      rcases Nat.lt_or_ge n 16 with single | more
      · rw [hexDigits, Nat.toDigits_of_lt_base single]
        simpa [hexValue] using digit ⟨n, single⟩
      · have front : hexValue (hexDigits (n / 16)) = n / 16 := ih (n / 16) (by omega)
        have last := digit ⟨n % 16, Nat.mod_lt n (by decide)⟩
        rw [hexValue, hexDigits] at front
        rw [hexDigits, Nat.toDigits_of_base_le (by decide) more, hexValue, List.foldl_append,
          front, List.foldl_cons, List.foldl_nil, last]
        exact Nat.div_add_mod n 16

-----------------------------------------------------------------------------------------
-- Quoted characters
-----------------------------------------------------------------------------------------

/-- The characters that are written as a backslash and one more character, with that character. -/
def shortEscapes : List (Char × Char) :=
  [('"', '"'), ('\\', '\\'), ('\n', 'n'), ('\r', 'r'), ('\t', 't'), ('\x00', '0')]

/-- The ways in which a character is written between quotes. -/
inductive Written (c : Char) : List Char → Prop
  | short {mark : Char} (listed : (c, mark) ∈ shortEscapes) : Written c ['\\', mark]
  | numbered : Written c (['\\', 'u', '\x7b'] ++ hexDigits c.toNat ++ ['\x7d'])
  | plain (noQuote : c ≠ '"') (noBackslash : c ≠ '\\') (noNewline : c ≠ '\n') : Written c [c]

theorem quotedChar_written (c : Char) : Written c (quotedChar c) := by
  rw [quotedChar]
  split_ifs with quote backslash newline carriage tab zero hidden
  · exact .short (by simp [quote, shortEscapes])
  · exact .short (by simp [backslash, shortEscapes])
  · exact .short (by simp [newline, shortEscapes])
  · exact .short (by simp [carriage, shortEscapes])
  · exact .short (by simp [tab, shortEscapes])
  · have isZero : c = '\x00' := Char.toNat_inj.mp zero
    exact .short (by simp [isZero, shortEscapes])
  · exact .numbered
  · exact .plain quote backslash newline

section

variable {c d : Char} {text other rest more : List Char}

theorem Written.no_newline (written : Written c text) : '\n' ∉ text := by
  cases written with
  | @short mark listed =>
      have each : ∀ pair ∈ shortEscapes, pair.2 ≠ '\n' := by decide
      simpa using (each _ listed).symm
  | numbered =>
      have digits := not_mem_hexDigits (c := '\n') (by decide) c.toNat
      simp [digits]
  | plain _ _ noNewline => simpa using noNewline.symm

/-- No character is written so that it starts with the closing quote. -/
theorem Written.ne_quote (written : Written c text) : text ++ rest ≠ '"' :: more := by
  cases written with
  | short listed => simp
  | numbered => simp
  | plain noQuote _ _ => simp [noQuote]

/-- A character can be read back from what it starts: cases on how the two are written. -/
theorem Written.append_inj (written : Written c text) (otherWritten : Written d other)
    (same : text ++ rest = other ++ more)
    : c = d ∧ rest = more := by
  have known : ∀ first ∈ shortEscapes, ∀ second ∈ shortEscapes,
      first.2 = second.2 → first.1 = second.1 := by decide
  have unnumbered : ∀ pair ∈ shortEscapes, pair.2 ≠ 'u' := by decide
  cases written with
  | short listed =>
      cases otherWritten with
      | short otherListed =>
          simp only [List.cons_append, List.nil_append, List.cons.injEq, true_and] at same
          exact ⟨known _ listed _ otherListed same.1, same.2⟩
      | numbered =>
          simp only [List.cons_append, List.cons.injEq, true_and] at same
          exact (unnumbered _ listed same.1).elim
      | plain _ noBackslash _ => simp [noBackslash.symm] at same
  | numbered =>
      cases otherWritten with
      | short otherListed =>
          simp only [List.cons_append, List.cons.injEq, true_and] at same
          exact (unnumbered _ otherListed same.1.symm).elim
      | numbered =>
          have noBrace := not_mem_hexDigits (c := '\x7d') (by decide)
          simp only [List.cons_append, List.nil_append, List.append_assoc, List.cons.injEq,
            true_and] at same
          obtain ⟨digits, after⟩ := delimited_inj (noBrace c.toNat) (noBrace d.toNat) same
          have number := congrArg hexValue digits
          rw [hexValue_hexDigits, hexValue_hexDigits] at number
          exact ⟨Char.toNat_inj.mp number, after⟩
      | plain _ noBackslash _ => simp [noBackslash.symm] at same
  | plain _ noBackslash _ =>
      cases otherWritten with
      | short _ => simp [noBackslash] at same
      | numbered => simp [noBackslash] at same
      | plain _ _ _ => simpa using same

end

-----------------------------------------------------------------------------------------
-- Quoted texts
-----------------------------------------------------------------------------------------

theorem quoted_no_newline (text : String) : '\n' ∉ (quoted text).toList := by
  have each : ∀ c ∈ text.toList, '\n' ∉ quotedChar c := fun c _ =>
    (quotedChar_written c).no_newline
  simpa [quoted] using each

/-- A quoted text can be read back from what it starts, by induction over the text. -/
theorem quoted_append_inj {text other : String} {rest more : List Char}
    (same : (quoted text).toList ++ rest = (quoted other).toList ++ more)
    : text = other ∧ rest = more := by
  simp only [quoted, String.toList_ofList, List.cons_append, List.append_assoc,
    List.cons.injEq, true_and, List.nil_append] at same
  have inner : text.toList = other.toList ∧ rest = more := by
    generalize text.toList = first, other.toList = second at same
    induction first generalizing second with
    | nil =>
        cases second with
        | nil => simpa using same
        | cons d second =>
            simp only [List.flatMap_nil, List.nil_append, List.flatMap_cons,
              List.append_assoc] at same
            exact ((quotedChar_written d).ne_quote same.symm).elim
    | cons c first ih =>
        cases second with
        | nil =>
            simp only [List.flatMap_nil, List.nil_append, List.flatMap_cons,
              List.append_assoc] at same
            exact ((quotedChar_written c).ne_quote same).elim
        | cons d second =>
            simp only [List.flatMap_cons, List.append_assoc] at same
            obtain ⟨rfl, after⟩ :=
              (quotedChar_written c).append_inj (quotedChar_written d) same
            obtain ⟨rfl, ended⟩ := ih second after
            exact ⟨rfl, ended⟩
  exact ⟨String.toList_inj.mp inner.1, inner.2⟩

end MessageCard.Text
