import MessageCard.Number.Written
import MessageCard.Toml.Table
import MessageCard.Toml.Text

/-!
Numbers, truth values and points in time as TOML spells them.
-/

namespace MessageCard.Toml

/-- What was taken off a text to leave the rest. -/
def taken (text rest : List Char) : List Char :=
  text.take (text.length - rest.length)

/-! ## Points in time -/

/-- Reads a number of so many decimal digits, within bounds. -/
def field (digits low high : Nat) : Scan Nat := fun text =>
  let spelled := text.take digits
  let value := readDigits 0 spelled
  if spelled.length = digits ∧ spelled.all Char.isDigit ∧ low ≤ value ∧ value ≤ high then
    some (value, text.drop digits)
  else none

/-- Takes a character off the text. -/
def expect (c : Char) : List Char → Option (List Char)
  | d :: rest => if c = d then some rest else none
  | [] => none

/-- The number of days of a month. -/
def daysIn (year month : Nat) : Nat :=
  if month = 2 then
    if year % 4 = 0 ∧ (year % 100 ≠ 0 ∨ year % 400 = 0) then 29 else 28
  else if [4, 6, 9, 11].contains month then 30
  else 31

/-- The text after a date. -/
def afterDate? (text : List Char) : Option (List Char) := do
  let (year, rest) ← field 4 0 9999 text
  let (month, rest) ← field 2 1 12 (← expect '-' rest)
  let (_, rest) ← field 2 1 (daysIn year month) (← expect '-' rest)
  some rest

/-- The text after a fraction of a second, which may be missing. -/
def afterSecondFraction (text : List Char) : List Char :=
  match text with
  | '.' :: c :: rest => if c.isDigit then rest.dropWhile Char.isDigit else text
  | _ => text

/-- The text after a time of day. -/
def afterTimeOfDay? (text : List Char) : Option (List Char) := do
  let (_, rest) ← field 2 0 23 text
  let (_, rest) ← field 2 0 59 (← expect ':' rest)
  let (_, rest) ← field 2 0 60 (← expect ':' rest)
  some (afterSecondFraction rest)

/-- The text after an offset from universal time, which may be missing. -/
def afterOffset? (text : List Char) : Option (List Char) :=
  match text with
  | [] => some []
  | c :: rest =>
      if c = 'Z' ∨ c = 'z' then some rest
      else if c = '+' ∨ c = '-' then do
        let (_, rest) ← field 2 0 23 rest
        let (_, rest) ← field 2 0 59 (← expect ':' rest)
        some rest
      else some text

/-- The text after a time of day with an offset, behind a date; both may be missing. -/
def afterDateTime? (text : List Char) : Option (List Char) :=
  match text with
  | [] => some []
  | c :: rest =>
      if c = 'T' ∨ c = 't' ∨ c = ' ' then
        match afterTimeOfDay? rest with
        | some rest => afterOffset? rest
        | none => some text
      else some text

/-- Reads a point in time: a date, a time of day, or both. -/
def timeValue : Scan Toml := fun text => do
  let rest ←
    match afterDate? text with
    | some rest => afterDateTime? rest
    | none => afterTimeOfDay? text
  some (.time (String.ofList (taken text rest)), rest)

/-! ## Numbers -/

/-- Reads digits with single underscores between them: the digits, and the rest.  The second
argument says that a digit has to come next. -/
def digitsOn (isDigit : Char → Bool) (due : Bool) : Scan (List Char)
  | [] => if due then none else some ([], [])
  | c :: rest =>
      if isDigit c then do
        let (digits, rest) ← digitsOn isDigit false rest
        some (c :: digits, rest)
      else if due then none
      else if c = '_' then digitsOn isDigit true rest
      else some ([], c :: rest)

/-- Reads digits with single underscores between them. -/
def digitsBy (isDigit : Char → Bool) : Scan (List Char) :=
  digitsOn isDigit true

/-- Reads the digits of a decimal number; a zero stands alone. -/
def decimalDigits : Scan (List Char)
  | '0' :: rest => some (['0'], rest)
  | text => digitsBy Char.isDigit text

/-- The integers of 64 bits. -/
def isInteger (value : Int) : Bool :=
  -9223372036854775808 ≤ value && value ≤ 9223372036854775807

/-- Reads a number in a base that is a power of two, after its prefix. -/
def basedInteger (base : Nat) : Scan Toml := fun text => do
  let inBase := fun c => (CharSet.hexDigit? c).any (· < base)
  let (digits, rest) ← digitsBy inBase text
  let value : Int := digits.foldl (fun value c => value * base + (CharSet.hexDigit? c).getD 0) 0
  if isInteger value then some (.integer value, rest) else none

/-- Reads a fraction after a number: its point and digits, which may be missing. -/
def fraction (text : List Char) : Option (List Char × List Char) :=
  match text with
  | '.' :: rest => do
      let (digits, rest) ← digitsBy Char.isDigit rest
      some ('.' :: digits, rest)
  | _ => some ([], text)

/-- Reads an exponent after a number: its letter, sign and digits, which may be missing. -/
def exponent (text : List Char) : Option (List Char × List Char) :=
  match text with
  | c :: rest =>
      if c = 'e' ∨ c = 'E' then do
        let (negative, rest) := splitSign rest
        let (digits, rest) ← digitsBy Char.isDigit rest
        some (c :: (if negative then '-' :: digits else digits), rest)
      else some ([], text)
  | [] => some ([], [])

/-- Reads a decimal number after its sign: an integer of 64 bits, or a number with a fraction
or an exponent, which must not be too large. -/
def decimal (negative : Bool) : Scan Toml := fun text => do
  let (digits, rest) ← decimalDigits text
  let (behind, rest) ← fraction rest
  let (power, rest) ← exponent rest
  let spelled := digits ++ behind ++ power
  if behind.isEmpty ∧ power.isEmpty then
    let value : Int := readDigits 0 digits
    let value := if negative then -value else value
    if isInteger value then some (.integer value, rest) else none
  else if negative then some (.float (String.ofList ('-' :: spelled)), rest)
  else if (readNumeric spelled).isSome then some (.float (String.ofList spelled), rest)
  else none

/-- Reads a word. -/
def word (value : Toml) (letters : List Char) : Scan Toml := fun text =>
  if letters.isPrefixOf text then some (value, text.drop letters.length) else none

/-- Reads a number. -/
def number : Scan Toml
  | '0' :: 'x' :: rest => basedInteger 16 rest
  | '0' :: 'o' :: rest => basedInteger 8 rest
  | '0' :: 'b' :: rest => basedInteger 2 rest
  | text =>
      let (negative, rest) := splitSign text
      match rest with
      | 'i' :: _ => word (.float (if negative then "-inf" else "inf")) "inf".toList rest
      | 'n' :: _ => word (.float "nan") "nan".toList rest
      | _ => decimal negative rest

/-- Reads a value that is neither a string nor a container. -/
def scalar : Scan Toml := fun text =>
  match text with
  | 't' :: _ => word (.boolean true) "true".toList text
  | 'f' :: _ => word (.boolean false) "false".toList text
  | _ =>
      match timeValue text with
      | some reading => some reading
      | none => number text

end MessageCard.Toml
