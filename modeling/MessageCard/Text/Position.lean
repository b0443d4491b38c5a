/-!
Places in a source text.  An offset counts the bytes of the UTF-8 form; a line and column
count newlines and the bytes since the last one.
-/

namespace MessageCard

/-- The bytes of a list of characters in UTF-8. -/
def utf8 (text : List Char) : List UInt8 :=
  text.flatMap String.utf8EncodeChar

/-- The sum of numbers. -/
def total (numbers : List Nat) : Nat :=
  numbers.foldr (· + ·) 0

/-- The number of bytes of a list of characters in UTF-8. -/
def utf8Length (text : List Char) : Nat :=
  total (text.map Char.utf8Size)

/-- The byte that ends a line. -/
def newline : UInt8 := 10

/-- A line, counted from 1, and the number of bytes read on it. -/
structure Position where
  line : Nat
  column : Nat
deriving DecidableEq, Repr

namespace Position

/-- The position after the first bytes of a text. -/
def after (bytes : List UInt8) (count : Nat) : Position :=
  let seen := bytes.take count
  { line := 1 + seen.count newline,
    column := (seen.reverse.takeWhile (· != newline)).length }

end Position

/-- The lines of a text, each with the newline that ends it. -/
def wholeLines : List UInt8 → List (List UInt8)
  | [] => []
  | b :: rest =>
      if b = newline then [b] :: wholeLines rest
      else
        match wholeLines rest with
        | [] => [[b]]
        | line :: more => (b :: line) :: more

/-- The number of bytes of the first lines of a text. -/
def lineStart (bytes : List UInt8) (lines : Nat) : Nat :=
  total (((wholeLines bytes).take lines).map List.length)

namespace Position

/-- The bytes before the line of a position, and those before the last byte read on it. -/
def sum (bytes : List UInt8) (position : Position) : Nat :=
  lineStart bytes (position.line - 1) + (position.column - 1)

/-- The offset of the last byte read at a position, capped at the end of the text; a position
on line 0 is the end of the text. -/
def offset (bytes : List UInt8) (position : Position) : Nat :=
  if position.line = 0 then bytes.length else min (position.sum bytes) bytes.length

end Position

/-! ## Machine words -/

/-- The number of values of a machine word. -/
def wordSize : Nat :=
  UInt64.size

/-- A sum of machine words.  One that is too great ends a program that checks its sums; without
the check, as much of it is left as a word can hold. -/
def wordSum? (isChecked : Bool) (sum : Nat) : Option Nat :=
  if sum < wordSize then some sum
  else if isChecked then none
  else some (sum % wordSize)

/-- The offset of a position, with its sum in machine words. -/
def Position.wordOffset? (isChecked : Bool) (bytes : List UInt8) (position : Position)
    : Option Nat :=
  if position.line = 0 then some bytes.length
  else (wordSum? isChecked (position.sum bytes)).map (min · bytes.length)

end MessageCard
