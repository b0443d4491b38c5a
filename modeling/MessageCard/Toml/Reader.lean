import MessageCard.Toml.Scalar

/-!
Reading TOML documents: keys, values, and the lines that headers divide into blocks.  A text is
either read as a table or refused.
-/

namespace MessageCard.Toml

/-! ## Keys -/

/-- Whether a character may stand in a name without quotation marks. -/
def isNameCharacter (c : Char) : Bool :=
  c.isAlphanum || c == '-' || c == '_'

/-- Reads a name, with or without quotation marks. -/
def name : Scan String
  | [] => none
  | c :: rest =>
      if c = basic.mark then lineString basic rest
      else if c = literal.mark then lineString literal rest
      else
        let letters := (c :: rest).takeWhile isNameCharacter
        if letters.isEmpty then none
        else some (String.ofList letters, (c :: rest).dropWhile isNameCharacter)

/-- Reads names with points between them, and the blanks around each.  The first argument
bounds the names. -/
def names : Nat → Scan (List String)
  | 0, _ => none
  | bound + 1, text => do
      let (first, rest) ← name (skipSpace text)
      match skipSpace rest with
      | '.' :: rest => do
          let (more, rest) ← names bound rest
          some (first :: more, rest)
      | rest => some ([first], rest)

/-- The number of containers that may be open at once, and of names in a key. -/
def nestingLimit : Nat :=
  79

/-- Reads a key. -/
def key : Scan Key := fun text => do
  let (parts, rest) ← names nestingLimit text
  let last ← parts.getLast?
  some ({ path := parts.dropLast, name := last }, rest)

/-! ## Values -/

/-- A reading, changed. -/
def mapScan {α β : Type} (f : α → β) : Option (α × List Char) → Option (β × List Char)
  | some (result, rest) => some (f result, rest)
  | none => none

mutual

/-- Reads a value.  The first argument bounds the steps, the second the containers that may be
opened inside one another. -/
def value : Nat → Nat → Scan Toml
  | 0, _, _ => none
  | _ + 1, _, [] => none
  | bound + 1, room, c :: rest =>
      if c = basic.mark then mapScan string (stringAfter basic rest)
      else if c = literal.mark then mapScan string (stringAfter literal rest)
      else if c = '[' then
        match room with
        | 0 => none
        | room + 1 => mapScan array (items bound room rest)
      else if c = '\x7b' then
        match room with
        | 0 => none
        | room + 1 => mapScan (table .inline) (fields bound room true [] rest)
      else scalar (c :: rest)

/-- Reads the items of an array up to its closing bracket; a comma may follow the last. -/
def items : Nat → Nat → Scan (List Toml)
  | 0, _, _ => none
  | bound + 1, room, text =>
      match skipGap false text with
      | ']' :: rest => some ([], rest)
      | text =>
          match value bound room text with
          | none => none
          | some (item, rest) =>
              match skipGap false rest with
              | ']' :: rest => some ([item], rest)
              | ',' :: rest => mapScan (item :: ·) (items bound room rest)
              | _ => none

/-- Reads the keys of an inline table up to its closing brace, added to those read before. -/
def fields : Nat → Nat → Bool → Entries → Scan Entries
  | 0, _, _, _, _ => none
  | bound + 1, room, first, seen, text =>
      match skipSpace text with
      | '\x7d' :: rest => if first then some (seen, rest) else none
      | text =>
          match key text with
          | some (key, '=' :: rest) =>
              match value bound room (skipSpace rest) with
              | none => none
              | some (item, rest) =>
                  match addEntry key item .inline seen, skipSpace rest with
                  | some seen, '\x7d' :: rest => some (seen, rest)
                  | some seen, ',' :: rest => fields bound room false seen rest
                  | _, _ => none
          | _ => none

end

/-! ## Documents -/

/-- What a line says. -/
inductive Statement
  | header (key : Key) (isRepeated : Bool)
  | entry (key : Key) (value : Toml)

/-- Reads a header after its first bracket. -/
def header : Scan Statement
  | '[' :: rest =>
      match key rest with
      | some (key, ']' :: ']' :: rest) => some (.header key true, rest)
      | _ => none
  | rest =>
      match key rest with
      | some (key, ']' :: rest) => some (.header key false, rest)
      | _ => none

/-- Reads a key and its value. -/
def entry : Scan Statement := fun text =>
  match key text with
  | some (key, '=' :: rest) =>
      mapScan (.entry key) (value (2 * rest.length + 2) nestingLimit (skipSpace rest))
  | _ => none

/-- Reads the statement on a line; a line may have none. -/
def statement (text : List Char) : Option (Option Statement × List Char) :=
  match text with
  | '[' :: rest => mapScan some (header rest)
  | c :: _ =>
      if c = '#' ∨ c = '\n' ∨ c = '\r' then some (none, text) else mapScan some (entry text)
  | [] => some (none, [])

/-- Reads the statements of a document.  The first argument bounds its lines. -/
def statements : Nat → List Char → Option (List Statement)
  | 0, _ => none
  | bound + 1, text =>
      match skipSpace text with
      | [] => some []
      | text => do
          let (found, rest) ← statement text
          let rest ← lineEnd? rest
          let more ← statements bound rest
          some (found.toList ++ more)

/-- The keys above the first header, and the blocks that headers start. -/
def blocks : List Statement → List (Key × Toml) × List Block
  | [] => ([], [])
  | .entry key value :: rest =>
      let (keys, more) := blocks rest
      ((key, value) :: keys, more)
  | .header key isRepeated :: rest =>
      let (keys, more) := blocks rest
      ([], { key, isRepeated, keys } :: more)

/-- Reads a document: its table, or none when it is refused.  A byte-order mark at the start is
skipped. -/
def ofText (text : List Char) : Option Entries := do
  let text := if text.head? = some '\ufeff' then text.drop 1 else text
  let found ← statements (text.length + 1) text
  let (keys, more) := blocks found
  ofBlocks keys more

end MessageCard.Toml
