/-!
Bytes that need not be those of a text.  They are shown as the characters whose UTF-8 form they are;
a character that breaks off, and a byte with which none can start, is shown as U+FFFD.
-/

namespace MessageCard.Text

/-- A character of which some bytes were read: the number they come to, how many bytes follow the
next one, and the bounds of the next one. -/
structure CharStart where
  number : Nat
  later : Nat
  low : Nat := 0x80
  high : Nat := 0xBF
deriving DecidableEq, Repr

/-- What was read of a character of several bytes with the first of them. -/
def CharStart.ofByte? (byte : Nat) : Option CharStart :=
  if byte < 0xC2 then none
  else if byte < 0xE0 then some { number := byte - 0xC0, later := 0 }
  else if byte < 0xF0 then
    some {
      number := byte - 0xE0
      later := 1
      low := if byte = 0xE0 then 0xA0 else 0x80
      high := if byte = 0xED then 0x9F else 0xBF }
  else if byte < 0xF5 then
    some {
      number := byte - 0xF0
      later := 2
      low := if byte = 0xF0 then 0x90 else 0x80
      high := if byte = 0xF4 then 0x8F else 0xBF }
  else none

/-- What is shown for bytes that are no character. -/
def replacement : Char :=
  '\ufffd'

/-- What a byte comes to between characters: what is shown, and the character that it starts. -/
def firstByte (byte : Nat) : List Char × Option CharStart :=
  if byte < 0x80 then ([Char.ofNat byte], none)
  else
    match CharStart.ofByte? byte with
    | some start => ([], some start)
    | none => ([replacement], none)

/-- What a byte comes to inside a character: one out of bounds breaks it off. -/
def CharStart.nextByte (start : CharStart) (byte : Nat) : List Char × Option CharStart :=
  if start.low ≤ byte ∧ byte ≤ start.high then
    let number := start.number * 64 + (byte - 0x80)
    match start.later with
    | 0 => ([Char.ofNat number], none)
    | later + 1 => ([], some { number, later })
  else
    let (shown, next) := firstByte byte
    (replacement :: shown, next)

/-- The characters as which bytes are shown, read on from a character that may have started. -/
def shownBytes : Option CharStart → List UInt8 → List Char
  | none, [] => []
  | some _, [] => [replacement]
  | none, byte :: rest =>
      let (shown, next) := firstByte byte.toNat
      shown ++ shownBytes next rest
  | some start, byte :: rest =>
      let (shown, next) := start.nextByte byte.toNat
      shown ++ shownBytes next rest

/-- Bytes as they are shown. -/
def ofBytes (bytes : List UInt8) : String :=
  String.ofList (shownBytes none bytes)

end MessageCard.Text
