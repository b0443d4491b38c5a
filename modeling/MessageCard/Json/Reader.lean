import MessageCard.Json.Value
import MessageCard.Text.Position

/-!
Reading JSON text.  A failure says why and where: the input that was left, and how many bytes
of it had been looked at.  Containers may be nested only so deep; doubles are read with a
64-bit significand that drops the digits beyond it, and one multiplication or division by a
power of ten.
-/

namespace MessageCard.Json.Reader

/-- Why a text is not JSON of the form that is read. -/
inductive Defect
  | endInValue
  | endInList
  | endInObject
  | endInString
  | noColon
  | noListComma
  | noObjectComma
  | badWord
  | noValue
  | badEscape
  | badNumber
  | numberRange
  | loneSurrogate
  | halfSurrogate
  | controlCharacter
  | keyNotString
  | trailingComma
  | trailingCharacters
  | tooDeep
  | mismatch (message : String)

/-- The wording of a defect. -/
def Defect.message : Defect → String
  | endInValue => "EOF while parsing a value"
  | endInList => "EOF while parsing a list"
  | endInObject => "EOF while parsing an object"
  | endInString => "EOF while parsing a string"
  | noColon => "expected `:`"
  | noListComma => "expected `,` or `]`"
  | noObjectComma => "expected `,` or `\x7d`"
  | badWord => "expected ident"
  | noValue => "expected value"
  | badEscape => "invalid escape"
  | badNumber => "invalid number"
  | numberRange => "number out of range"
  | loneSurrogate => "lone leading surrogate in hex escape"
  | halfSurrogate => "unexpected end of hex escape"
  | controlCharacter => "control character (\\u0000-\\u001F) found while parsing a string"
  | keyNotString => "key must be a string"
  | trailingComma => "trailing comma"
  | trailingCharacters => "trailing characters"
  | tooDeep => "recursion limit exceeded"
  | mismatch message => message

/-- A defect, the input left where it was met, and the bytes of that input already seen. -/
structure Failure where
  defect : Defect
  rest : List Char
  ahead : Nat

/-- A failure at the start of the rest, after some bytes of it. -/
def fail {α : Type} (defect : Defect) (rest : List Char) (ahead : Nat) : Except Failure α :=
  .error { defect, rest, ahead }

/-- The blanks between JSON tokens. -/
def isSeparator (c : Char) : Bool :=
  c == ' ' || c == '\n' || c == '\t' || c == '\r'

/-- Skips the blanks between tokens. -/
def skipBlank (text : List Char) : List Char :=
  text.dropWhile isSeparator

/-! ## Words and numbers -/

/-- Reads the rest of a word whose first letter was read. -/
def word {α : Type} (result : α) : List Char → List Char → Except Failure (α × List Char)
  | [], rest => .ok (result, rest)
  | _ :: _, [] => fail .endInValue [] 0
  | c :: expected, d :: rest =>
      if c = d then word result expected rest else fail .badWord (d :: rest) 1

/-- The largest significand. -/
def significandLimit : Nat :=
  Nat.pow 2 64

/-- Reads digits on from a significand: the significand, how many digits it took, how many
were dropped since they would not fit, and the rest. -/
def significandDigits (value : Nat) : List Char → Nat × Nat × Nat × List Char
  | [] => (value, 0, 0, [])
  | c :: rest =>
      if c.isDigit then
        let next := value * 10 + digitValue c
        if next < significandLimit then
          let (result, taken, dropped, rest) := significandDigits next rest
          (result, taken + 1, dropped, rest)
        else
          (value, 0, ((c :: rest).takeWhile Char.isDigit).length,
            (c :: rest).dropWhile Char.isDigit)
      else (value, 0, 0, c :: rest)

/-- The significand divided by a power of ten, at most 308 at a time. -/
def divided : Nat → Double → Nat → Double
  | 0, _, _ => .zero
  | bound + 1, value, power =>
      if power ≤ 308 then value.div (Double.ofNat (Nat.pow 10 power))
      else if value.isZero then value
      else divided bound (value.div (Double.ofNat (Nat.pow 10 308))) (power - 308)

/-- The double of a significand and a power of ten; none when it is out of range. -/
def doubleOf (significand : Nat) (power : Int) : Option Double :=
  let value := Double.ofNat significand
  if power < 0 then some (divided 4 value power.natAbs)
  else if power ≤ 308 then
    let product := value.mul (Double.ofNat (Nat.pow 10 power.toNat))
    if product.isFinite then some product else none
  else if significand = 0 then some value
  else none

/-- The double with its sign, or a failure where the number ends. -/
def signedDouble (negative : Bool) (significand : Nat) (power : Int) (rest : List Char)
    : Except Failure (JsonNumber × List Char) :=
  match doubleOf significand power with
  | some value => .ok (.double (if negative then value.neg else value), rest)
  | none => fail .numberRange rest 0

/-- The largest power that an exponent may spell. -/
def exponentLimit : Nat :=
  Nat.pow 2 31

/-- Reads the digits of an exponent; none when they spell too large a number, with the rest
after the digit that did. -/
def exponentDigits (value : Nat) : List Char → Option Nat × List Char
  | [] => (some value, [])
  | c :: rest =>
      if c.isDigit then
        let next := value * 10 + digitValue c
        if next < exponentLimit then exponentDigits next rest else (none, rest)
      else (some value, c :: rest)

/-- Reads an exponent after its letter. -/
def exponentPart (negative : Bool) (significand : Nat) (power : Int) (text : List Char)
    : Except Failure (JsonNumber × List Char) :=
  let (minus, digits) := splitSign text
  match digits with
  | [] => fail .endInValue [] 0
  | c :: rest =>
      if !c.isDigit then fail .badNumber (c :: rest) 1
      else
        match exponentDigits (digitValue c) rest with
        | (some exponent, rest) =>
            signedDouble negative significand
              (if minus then power - exponent else power + exponent) rest
        | (none, rest) =>
            if significand ≠ 0 ∧ !minus then fail .numberRange rest 0
            else
              .ok (.double (.ofMagnitude negative 0), rest.dropWhile Char.isDigit)

/-- Ends a double: an exponent may follow. -/
def doubleEnd (negative : Bool) (significand : Nat) (power : Int)
    : List Char → Except Failure (JsonNumber × List Char)
  | c :: rest =>
      if c = 'e' ∨ c = 'E' then exponentPart negative significand power rest
      else signedDouble negative significand power (c :: rest)
  | [] => signedDouble negative significand power []

/-- Reads a fraction after its point. -/
def fractionPart (negative : Bool) (significand : Nat) (power : Int) (text : List Char)
    : Except Failure (JsonNumber × List Char) :=
  match text with
  | [] => fail .endInValue [] 0
  | c :: _ =>
      if !c.isDigit then fail .badNumber text 1
      else
        let (significand, taken, _, rest) := significandDigits significand text
        doubleEnd negative significand (power - taken) rest

/-- Ends a number after its integer part, of which some digits may have been dropped. -/
def numberEnd (negative : Bool) (significand dropped : Nat) (text : List Char)
    : Except Failure (JsonNumber × List Char) :=
  match text with
  | '.' :: rest => fractionPart negative significand dropped rest
  | _ =>
      if dropped ≠ 0 ∨ text.head? = some 'e' ∨ text.head? = some 'E' then
        doubleEnd negative significand dropped text
      else if !negative then .ok (.integer significand, text)
      else if significand = 0 ∨ Nat.pow 2 63 < significand then
        .ok (.double (Double.ofRatio true significand 1), text)
      else .ok (.integer (-significand), text)

/-- Reads a number after its sign. -/
def unsigned (negative : Bool) : List Char → Except Failure (JsonNumber × List Char)
  | [] => fail .endInValue [] 0
  | '0' :: rest =>
      if rest.head?.any Char.isDigit then fail .badNumber rest 1
      else numberEnd negative 0 0 rest
  | c :: rest =>
      if c.isDigit then
        let (significand, _, dropped, rest) := significandDigits (digitValue c) rest
        numberEnd negative significand dropped rest
      else fail .badNumber (c :: rest) 1

/-- Reads a number. -/
def number : List Char → Except Failure (JsonNumber × List Char)
  | '-' :: rest => unsigned true rest
  | text => unsigned false text

/-! ## Strings -/

/-- Reads the four hexadecimal digits of an escape. -/
def hexEscape (text : List Char) : Except Failure (Nat × List Char) :=
  match text with
  | a :: b :: c :: d :: rest =>
      match CharSet.hexDigit? a, CharSet.hexDigit? b, CharSet.hexDigit? c,
          CharSet.hexDigit? d with
      | some a, some b, some c, some d => .ok (((a * 16 + b) * 16 + c) * 16 + d, rest)
      | _, _, _, _ => fail .badEscape text 4
  | _ => if 4 ≤ utf8Length text then fail .badEscape text 4 else fail .endInString [] 0

/-- Reads the second half of a pair of surrogates. -/
def lowSurrogate (high : Nat) : List Char → Except Failure (Char × List Char)
  | [] => fail .endInString [] 0
  | '\\' :: 'u' :: rest => do
      let (low, rest) ← hexEscape rest
      if low < 0xDC00 ∨ 0xDFFF < low then fail .loneSurrogate rest 0
      else .ok (Char.ofNat (0x10000 + (high - 0xD800) * 0x400 + (low - 0xDC00)), rest)
  | ['\\'] => fail .endInString [] 0
  | '\\' :: rest => fail .halfSurrogate rest 1
  | rest => fail .halfSurrogate rest 1

/-- Reads an escape by number. -/
def unicodeEscape (text : List Char) : Except Failure (Char × List Char) := do
  let (code, rest) ← hexEscape text
  if 0xDC00 ≤ code ∧ code ≤ 0xDFFF then fail .loneSurrogate rest 0
  else if 0xD800 ≤ code ∧ code < 0xDC00 then lowSurrogate code rest
  else .ok (Char.ofNat code, rest)

/-- The character that a letter stands for after a backslash. -/
def shortEscape? (c : Char) : Option Char :=
  if c = '"' ∨ c = '\\' ∨ c = '/' then some c
  else if c = 'b' then some (Char.ofNat 8)
  else if c = 'f' then some (Char.ofNat 12)
  else if c = 'n' then some '\n'
  else if c = 'r' then some '\r'
  else if c = 't' then some '\t'
  else none

/-- Reads an escape after its backslash. -/
def escape : List Char → Except Failure (Char × List Char)
  | [] => fail .endInString [] 0
  | 'u' :: rest => unicodeEscape rest
  | c :: rest =>
      match shortEscape? c with
      | some meaning => .ok (meaning, rest)
      | none => fail .badEscape (c :: rest) 1

/-- Reads the characters of a string up to its closing quote; the first argument bounds the
number of characters. -/
def stringBody : Nat → List Char → Except Failure (List Char × List Char)
  | 0, text => fail .endInString text 0
  | _ + 1, [] => fail .endInString [] 0
  | bound + 1, c :: rest =>
      if c = '"' then .ok ([], rest)
      else if c = '\\' then do
        let (meaning, rest) ← escape rest
        let (more, rest) ← stringBody bound rest
        .ok (meaning :: more, rest)
      else if c.toNat < 0x20 then fail .controlCharacter (c :: rest) 1
      else do
        let (more, rest) ← stringBody bound rest
        .ok (c :: more, rest)

/-- Reads a string after its opening quote. -/
def stringRest (text : List Char) : Except Failure (String × List Char) := do
  let (characters, rest) ← stringBody (text.length + 1) text
  .ok (String.ofList characters, rest)

/-! ## Values -/

/-- Reads the colon between a name and its value. -/
def colon (text : List Char) : Except Failure (List Char) :=
  match skipBlank text with
  | ':' :: rest => .ok rest
  | [] => fail .endInObject [] 0
  | rest => fail .noColon rest 1

/-- What follows in a container: its end and the rest after it, or the text of a member. -/
inductive Next
  | finished (rest : List Char)
  | member (text : List Char)

/-- Finds the next item of a list, given whether it is the first. -/
def nextItem (first : Bool) (text : List Char) : Except Failure Next :=
  match skipBlank text with
  | [] => fail .endInList [] 0
  | ']' :: rest => .ok (.finished rest)
  | c :: rest =>
      if first then .ok (.member (c :: rest))
      else if c = ',' then
        match skipBlank rest with
        | [] => fail .endInValue [] 0
        | ']' :: rest => fail .trailingComma (']' :: rest) 1
        | rest => .ok (.member rest)
      else fail .noListComma (c :: rest) 1

/-- Finds the next name of an object, given whether it is the first; its text starts after
the opening quote. -/
def nextName (first : Bool) (text : List Char) : Except Failure Next :=
  match skipBlank text with
  | [] => fail .endInObject [] 0
  | '\x7d' :: rest => .ok (.finished rest)
  | c :: rest =>
      if first then
        if c = '"' then .ok (.member rest) else fail .keyNotString (c :: rest) 1
      else if c = ',' then
        match skipBlank rest with
        | [] => fail .endInValue [] 0
        | '"' :: rest => .ok (.member rest)
        | '\x7d' :: rest => fail .trailingComma ('\x7d' :: rest) 1
        | rest => fail .keyNotString rest 1
      else fail .noObjectComma (c :: rest) 1

/-- A reading, changed on success. -/
def mapReading {α β : Type} (f : α → β)
    : Except Failure (α × List Char) → Except Failure (β × List Char)
  | .ok (result, rest) => .ok (f result, rest)
  | .error failure => .error failure

mutual

/-- Reads a value.  The first argument bounds the steps, the second the containers that may
be opened inside one another. -/
def value : Nat → Nat → List Char → Except Failure (Json × List Char)
  | 0, _, text => fail .endInValue text 0
  | bound + 1, room, text =>
      match skipBlank text with
      | [] => fail .endInValue [] 0
      | 'n' :: rest => word null ['u', 'l', 'l'] rest
      | 't' :: rest => word (bool true) ['r', 'u', 'e'] rest
      | 'f' :: rest => word (bool false) ['a', 'l', 's', 'e'] rest
      | '"' :: rest => mapReading string (stringRest rest)
      | '[' :: rest =>
          match room with
          | 0 => fail .tooDeep ('[' :: rest) 1
          | room + 1 => mapReading array (items bound room true rest)
      | '\x7b' :: rest =>
          match room with
          | 0 => fail .tooDeep ('\x7b' :: rest) 1
          | room + 1 => mapReading object (fields bound room true [] rest)
      | c :: rest =>
          if c = '-' ∨ c.isDigit then mapReading Json.number (number (c :: rest))
          else fail .noValue (c :: rest) 1

/-- Reads the items of an array up to its closing bracket. -/
def items : Nat → Nat → Bool → List Char → Except Failure (List Json × List Char)
  | 0, _, _, text => fail .endInList text 0
  | bound + 1, room, first, text =>
      match nextItem first text with
      | .error failure => .error failure
      | .ok (.finished rest) => .ok ([], rest)
      | .ok (.member text) =>
          match value bound room text with
          | .error failure => .error failure
          | .ok (item, rest) => mapReading (item :: ·) (items bound room false rest)

/-- Reads the fields of an object up to its closing brace, added to those read before. -/
def fields : Nat → Nat → Bool → Fields → List Char → Except Failure (Fields × List Char)
  | 0, _, _, _, text => fail .endInObject text 0
  | bound + 1, room, first, seen, text =>
      match nextName first text with
      | .error failure => .error failure
      | .ok (.finished rest) => .ok (seen, rest)
      | .ok (.member text) =>
          match stringRest text with
          | .error failure => .error failure
          | .ok (name, rest) =>
              match colon rest with
              | .error failure => .error failure
              | .ok rest =>
                  match value bound room rest with
                  | .error failure => .error failure
                  | .ok (item, rest) =>
                      fields bound room false (insertField name item seen) rest

end

/-- The number of containers that may be open at once. -/
def nestingLimit : Nat :=
  127

/-- Requires that nothing but blanks is left. -/
def finished {α : Type} (result : α) (rest : List Char) : Except Failure α :=
  match skipBlank rest with
  | [] => .ok result
  | rest => fail .trailingCharacters rest 1

/-- Reads a whole text as one value. -/
def readText (text : List Char) : Except Failure Json := do
  let (result, rest) ← value (2 * text.length + 2) nestingLimit text
  finished result rest

/-- The offset at which a text failed: the bytes read or looked at. -/
def Failure.offset (failure : Failure) (text : List Char) : Nat :=
  min (utf8Length text - utf8Length failure.rest + failure.ahead) (utf8Length text)

/-- The position at which a text failed. -/
def Failure.position (failure : Failure) (text : List Char) : Position :=
  Position.after (utf8 text) (failure.offset text)

/-- A defect and its position, in words. -/
def Failure.message (failure : Failure) (text : List Char) : String :=
  let position := failure.position text
  failure.defect.message ++ " at line " ++ toString position.line ++ " column " ++
    toString position.column

/-- Reads a whole text as one value. -/
def read (text : String) : Except Failure Json :=
  readText text.toList

end MessageCard.Json.Reader
