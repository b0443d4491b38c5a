import MessageCard.Json.Reader
import MessageCard.Text.Quoted

/-!
Reading JSON text straight into typed values.  A value of the wrong kind is refused where it
stands; a structure may be an object, or an array that lists its fields in order.
-/

namespace MessageCard.Json.Reader

/-- A reader of typed values: it takes a value off the text. -/
abbrev Typed (α : Type) := List Char → Except Failure (α × List Char)

/-! ## Values of the wrong kind -/

/-- A number, in words. -/
def numberWords : JsonNumber → String
  | .integer value => "integer \x60" ++ (JsonNumber.integer value).text ++ "\x60"
  | .double value => "floating point \x60" ++ value.json ++ "\x60"

/-- The refusal of something found, in words. -/
def wrongKind (found expected : String) : Defect :=
  .mismatch ("invalid type: " ++ found ++ ", expected " ++ expected)

/-- A reading that is refused after it succeeded. -/
def refused {α β : Type} (found : α → String) (expected : String)
    : Except Failure (α × List Char) → Except Failure (β × List Char)
  | .ok (value, rest) => fail (wrongKind (found value) expected) rest 0
  | .error failure => .error failure

/-- Refuses the value that a text starts with.  Containers are not read. -/
def refuse {α : Type} (expected : String) (text : List Char) : Except Failure (α × List Char) :=
  match text with
  | [] => fail .endInValue [] 0
  | 'n' :: rest => refused (fun _ => "null") expected (word () ['u', 'l', 'l'] rest)
  | 't' :: rest =>
      refused (fun _ => "boolean \x60true\x60") expected (word () ['r', 'u', 'e'] rest)
  | 'f' :: rest =>
      refused (fun _ => "boolean \x60false\x60") expected (word () ['a', 'l', 's', 'e'] rest)
  | '"' :: rest => refused (fun value => "string " ++ Text.quoted value) expected (stringRest rest)
  | '[' :: _ => fail (wrongKind "sequence" expected) text 0
  | '\x7b' :: _ => fail (wrongKind "map" expected) text 0
  | c :: _ =>
      if c = '-' ∨ c.isDigit then refused numberWords expected (number text)
      else fail .noValue text 1

/-! ## Scalars -/

/-- Reads a string. -/
def typedString : Typed String := fun text =>
  match skipBlank text with
  | '"' :: rest => stringRest rest
  | rest => refuse "a string" rest

/-- Reads a natural number of 64 bits. -/
def typedNat : Typed Nat := fun text =>
  match skipBlank text with
  | c :: rest =>
      if c = '-' ∨ c.isDigit then
        match number (c :: rest) with
        | .error failure => .error failure
        | .ok (.integer value, rest) =>
            if value < 0 then
              fail (.mismatch ("invalid value: " ++ numberWords (.integer value) ++
                ", expected usize")) rest 0
            else .ok (value.toNat, rest)
        | .ok (value, rest) => fail (wrongKind (numberWords value) "usize") rest 0
      else refuse "usize" (c :: rest)
  | [] => refuse "usize" []

/-- Reads a value that may be `null`. -/
def typedOption {α : Type} (inner : Typed α) : Typed (Option α) := fun text =>
  match skipBlank text with
  | 'n' :: rest => word none ['u', 'l', 'l'] rest
  | rest => mapReading some (inner rest)

/-- Reads `null`. -/
def typedUnit : Typed Unit := fun text =>
  match skipBlank text with
  | 'n' :: rest => word () ['u', 'l', 'l'] rest
  | rest => refuse "unit" rest

/-! ## Enumerations -/

/-- Names in code marks, joined by commas. -/
def namesList (names : List String) : String :=
  String.intercalate ", " (names.map fun name => "\x60" ++ name ++ "\x60")

/-- Reads the name of a variant after its opening quote. -/
def variantName {α : Type} (ofName? : String → Option α) (names : List String)
    (text : List Char) : Except Failure (α × List Char) :=
  match stringRest text with
  | .error failure => .error failure
  | .ok (name, rest) =>
      match ofName? name with
      | some value => .ok (value, rest)
      | none =>
          fail (.mismatch ("unknown variant \x60" ++ name ++ "\x60, expected one of " ++
            namesList names)) rest 0

/-- Reads the end of an object with one field. -/
def singleEnd {α : Type} (value : α) (text : List Char) : Except Failure (α × List Char) :=
  match skipBlank text with
  | [] => fail .endInObject [] 0
  | '\x7d' :: rest => .ok (value, rest)
  | rest => fail .noValue rest 0

/-- Reads a variant without content: its name, or an object whose only field has that name and
the value `null`. -/
def typedVariant {α : Type} (ofName? : String → Option α) (names : List String) : Typed α :=
  fun text =>
    match skipBlank text with
    | '"' :: rest => variantName ofName? names rest
    | '\x7b' :: rest =>
        match skipBlank rest with
        | '"' :: rest => do
            let (value, rest) ← variantName ofName? names rest
            let rest ← colon rest
            let ((), rest) ← typedUnit rest
            singleEnd value rest
        | '\x7d' :: rest => fail .noValue ('\x7d' :: rest) 1
        | [] => fail .endInObject [] 0
        | rest => fail .keyNotString rest 1
    | [] => fail .endInValue [] 0
    | rest => fail .noValue rest 1

/-! ## Values that are skipped -/

/-- Skips a string after its opening quote.  Escapes by number are not decoded. -/
def skipString : Nat → List Char → Except Failure (List Char)
  | 0, text => fail .endInString text 0
  | _ + 1, [] => fail .endInString [] 0
  | bound + 1, c :: rest =>
      if c = '"' then .ok rest
      else if c = '\\' then
        match rest with
        | [] => fail .endInString [] 0
        | 'u' :: digits =>
            match hexEscape digits with
            | .error failure => .error failure
            | .ok (_, rest) => skipString bound rest
        | d :: rest =>
            if (shortEscape? d).isSome then skipString bound rest
            else fail .badEscape (d :: rest) 1
      else if c.toNat < 0x20 then fail .controlCharacter (c :: rest) 0
      else skipString bound rest

/-- Skips digits, of which there has to be one. -/
def skipDigits (seen : Nat) (text : List Char) : Except Failure (List Char) :=
  if text.head?.any Char.isDigit then .ok (text.dropWhile Char.isDigit)
  else fail .badNumber text (if text.isEmpty then 0 else seen)

/-- Skips an exponent, if there is one. -/
def skipExponent (text : List Char) : Except Failure (List Char) :=
  match text with
  | c :: rest => if c = 'e' ∨ c = 'E' then skipDigits 1 (splitSign rest).2 else .ok text
  | [] => .ok []

/-- Skips a number after its sign. -/
def skipNumber (text : List Char) : Except Failure (List Char) := do
  let rest ←
    match text with
    | '0' :: rest => if rest.head?.any Char.isDigit then fail .badNumber rest 1 else .ok rest
    | _ => skipDigits 1 text
  match rest with
  | '.' :: rest => do skipExponent (← skipDigits 1 rest)
  | _ => skipExponent rest

/-- A container that is open while values are skipped. -/
inductive Bracket
  | list
  | object
deriving DecidableEq, Repr

/-- Skips the name of a field and its colon. -/
def skipName (text : List Char) : Except Failure (List Char) :=
  match skipBlank text with
  | '"' :: rest => do colon (← skipString (rest.length + 1) rest)
  | [] => fail .endInObject [] 0
  | rest => fail .keyNotString rest 1

/-- Goes on after a value or an opening bracket: up to the next value, or to the end of all
containers, when none is left open. -/
def skipOn : List Bracket → Bool → List Char → Except Failure (List Bracket × List Char)
  | [], _, text => .ok ([], text)
  | bracket :: outer, comma, text =>
      match skipBlank text with
      | [] => fail (if bracket = .list then .endInList else .endInObject) [] 0
      | c :: rest =>
          if c = ',' ∧ comma then
            if bracket = .object then do .ok (bracket :: outer, ← skipName rest)
            else .ok (bracket :: outer, rest)
          else if (c = ']' ∧ bracket = .list) ∨ (c = '\x7d' ∧ bracket = .object) then
            skipOn outer true rest
          else if comma then
            fail (if bracket = .list then .noListComma else .noObjectComma) (c :: rest) 1
          else if bracket = .object then do .ok (bracket :: outer, ← skipName (c :: rest))
          else .ok (bracket :: outer, c :: rest)

/-- Skips a value inside open containers, and then all that is left in them.  The first
argument bounds the values. -/
def skipValue : Nat → List Bracket → List Char → Except Failure (List Char)
  | 0, _, text => fail .endInValue text 0
  | bound + 1, brackets, text => do
      let (brackets, rest) ←
        match skipBlank text with
        | [] => fail .endInValue [] 0
        | 'n' :: rest => do skipOn brackets true (← word () ['u', 'l', 'l'] rest).2
        | 't' :: rest => do skipOn brackets true (← word () ['r', 'u', 'e'] rest).2
        | 'f' :: rest => do skipOn brackets true (← word () ['a', 'l', 's', 'e'] rest).2
        | '"' :: rest => do skipOn brackets true (← skipString (rest.length + 1) rest)
        | '-' :: rest => do skipOn brackets true (← skipNumber rest)
        | '[' :: rest => skipOn (.list :: brackets) false rest
        | '\x7b' :: rest => skipOn (.object :: brackets) false rest
        | c :: rest =>
            if c.isDigit then do skipOn brackets true (← skipNumber (c :: rest))
            else fail .noValue (c :: rest) 1
      if brackets.isEmpty then .ok rest else skipValue bound brackets rest

/-- Skips a value. -/
def typedIgnored : Typed Unit := fun text => do
  .ok ((), ← skipValue (text.length + 1) [] text)

/-! ## Structures -/

/-- A field of a structure: its name, and a reader that puts it in place. -/
structure Field (α : Type) where
  name : String
  read : α → Typed α

/-- A field whose value is put in place when it was read. -/
def Field.of {α β : Type} (name : String) (inner : Typed β) (put : α → β → α) : Field α where
  name := name
  read := fun whole text => mapReading (put whole) (inner text)

/-- How a structure is read: its name, its fields in order, whether other fields are refused,
and what stands for fields that are missing. -/
structure Shape (α : Type) where
  name : String
  fields : List (Field α)
  isClosed : Bool
  initial : α

/-- Refuses a field after its name: the end of the object is taken along, if it follows. -/
def refuseField {α : Type} (message : String) (text : List Char)
    : Except Failure (α × List Char) :=
  match skipBlank text with
  | '\x7d' :: rest => fail (.mismatch message) rest 0
  | rest => fail (.mismatch message) rest 0

/-- Reads the fields of an object up to its closing brace.  The first argument bounds them;
the names in the third were read before. -/
def shapeFields {α : Type} (shape : Shape α)
    : Nat → Bool → List String → α → Typed α
  | 0, _, _, _, text => fail .endInObject text 0
  | bound + 1, first, seen, whole, text =>
      match nextName first text with
      | .error failure => .error failure
      | .ok (.finished rest) => .ok (whole, rest)
      | .ok (.member text) => do
          let (name, rest) ← stringRest text
          match shape.fields.find? (·.name == name) with
          | some field =>
              if seen.contains name then
                refuseField ("duplicate field \x60" ++ name ++ "\x60") rest
              else
                let (whole, rest) ← field.read whole (← colon rest)
                shapeFields shape bound false (name :: seen) whole rest
          | none =>
              if shape.isClosed then
                refuseField ("unknown field \x60" ++ name ++ "\x60, expected one of " ++
                  namesList (shape.fields.map Field.name)) rest
              else
                let ((), rest) ← typedIgnored (← colon rest)
                shapeFields shape bound false seen whole rest

/-- Reads the end of an array that lists fields. -/
def listEnd {α : Type} (whole : α) (text : List Char) : Except Failure (α × List Char) :=
  match skipBlank text with
  | [] => fail .endInList [] 0
  | ']' :: rest => .ok (whole, rest)
  | ',' :: rest =>
      match skipBlank rest with
      | ']' :: rest => fail .trailingComma (']' :: rest) 1
      | [] => fail .trailingCharacters [] 0
      | rest => fail .trailingCharacters rest 1
  | rest => fail .trailingCharacters rest 1

/-- Reads an array that lists the fields in order; fields at the end may be missing. -/
def shapeItems {α : Type} : List (Field α) → Bool → α → Typed α
  | [], _, whole, text => listEnd whole text
  | field :: rest, first, whole, text =>
      match nextItem first text with
      | .error failure => .error failure
      | .ok (.finished rest) => .ok (whole, rest)
      | .ok (.member text) => do
          let (whole, text) ← field.read whole text
          shapeItems rest false whole text

/-- Reads a structure. -/
def typedShape {α : Type} (shape : Shape α) : Typed α := fun text =>
  match skipBlank text with
  | '[' :: rest => shapeItems shape.fields true shape.initial rest
  | '\x7b' :: rest => shapeFields shape (rest.length + 1) true [] shape.initial rest
  | rest => refuse ("struct " ++ shape.name) rest

/-- Puts an entry into a table in the order of the names, in place of one of the same name. -/
def insertEntry (name value : String) : List (String × String) → List (String × String)
  | [] => [(name, value)]
  | (other, old) :: rest =>
      if name < other then (name, value) :: (other, old) :: rest
      else if name = other then (name, value) :: rest
      else (other, old) :: insertEntry name value rest

/-- Reads the entries of a table of strings up to its closing brace, added to those read
before.  The first argument bounds them. -/
def tableEntries : Nat → Bool → List (String × String) → Typed (List (String × String))
  | 0, _, _, text => fail .endInObject text 0
  | bound + 1, first, seen, text =>
      match nextName first text with
      | .error failure => .error failure
      | .ok (.finished rest) => .ok (seen, rest)
      | .ok (.member text) => do
          let (name, rest) ← stringRest text
          let (value, rest) ← typedString (← colon rest)
          tableEntries bound false (insertEntry name value seen) rest

/-- Reads a table of strings. -/
def typedTable : Typed (List (String × String)) := fun text =>
  match skipBlank text with
  | '\x7b' :: rest => tableEntries (rest.length + 1) true [] rest
  | rest => refuse "a map" rest

/-- Reads a whole text as one typed value. -/
def readTyped {α : Type} (reader : Typed α) (text : List Char) : Except Failure α := do
  let (value, rest) ← reader text
  finished value rest

end MessageCard.Json.Reader
