/-!
Sets of characters given by ranges of code points, as the Unicode character database lists
them.  A table is written as text, `lo-hi` or `c` in hexadecimal, separated by blanks.
-/

namespace MessageCard

/-- A set of characters, as a list of closed ranges of code points. -/
structure CharSet where
  ranges : List (Nat × Nat)

namespace CharSet

/-- A character is in the set when its code point lies in one of the ranges. -/
def contains (set : CharSet) (c : Char) : Bool :=
  set.ranges.any fun (low, high) => low ≤ c.toNat && c.toNat ≤ high

/-- The value of a hexadecimal digit, in either case. -/
def hexDigit? (c : Char) : Option Nat :=
  if '0' ≤ c ∧ c ≤ '9' then some (c.toNat - '0'.toNat)
  else if 'a' ≤ c ∧ c ≤ 'f' then some (c.toNat - 'a'.toNat + 10)
  else if 'A' ≤ c ∧ c ≤ 'F' then some (c.toNat - 'A'.toNat + 10)
  else none

/-- The number that hexadecimal digits spell; other characters count as nothing. -/
def hexNumber (digits : List Char) : Nat :=
  digits.foldl (fun value c => value * 16 + (hexDigit? c).getD 0) 0

/-- Splits a list at every element that satisfies the test, which is dropped. -/
def splitAll {α : Type} (test : α → Bool) : List α → List (List α)
  | [] => [[]]
  | a :: rest =>
      if test a then [] :: splitAll test rest
      else
        match splitAll test rest with
        | [] => [[a]]
        | first :: more => (a :: first) :: more

/-- Reads one entry of a table, `lo-hi` or a single code point. -/
def entry (text : List Char) : Option (Nat × Nat) :=
  match splitAll (· == '-') text with
  | [[]] => none
  | [low, high] => some (hexNumber low, hexNumber high)
  | one :: _ => some (hexNumber one, hexNumber one)
  | [] => none

/-- Reads a table written as lines of entries. -/
def ofTable (lines : List String) : CharSet :=
  { ranges := lines.flatMap fun line => (splitAll (· == ' ') line.toList).filterMap entry }

end CharSet

end MessageCard
