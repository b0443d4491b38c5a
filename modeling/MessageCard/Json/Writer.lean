import MessageCard.Json.Value

/-!
JSON as text, without blanks or with one item on a line.
-/

namespace MessageCard.Json

/-- A character as it stands in a JSON string. -/
def escapedChar (c : Char) : List Char :=
  if c = '"' then ['\\', '"']
  else if c = '\\' then ['\\', '\\']
  else if c = '\n' then ['\\', 'n']
  else if c = '\r' then ['\\', 'r']
  else if c = '\t' then ['\\', 't']
  else if c.toNat = 8 then ['\\', 'b']
  else if c.toNat = 12 then ['\\', 'f']
  else if c.toNat < 16 then ['\\', 'u', '0', '0', '0'] ++ Nat.toDigits 16 c.toNat
  else if c.toNat < 32 then ['\\', 'u', '0', '0'] ++ Nat.toDigits 16 c.toNat
  else [c]

/-- A JSON string. -/
def quote (text : String) : String :=
  String.ofList ('"' :: text.toList.flatMap escapedChar ++ ['"'])

/-- Joins texts with a separator. -/
def joinWith (separator : String) : List String → String
  | [] => ""
  | [one] => one
  | one :: rest => one ++ separator ++ joinWith separator rest

mutual

/-- The text of a value without blanks. -/
def compact : Json → String
  | null => "null"
  | bool value => if value then "true" else "false"
  | number value => value.text
  | string value => quote value
  | array items => "[" ++ joinWith "," (compactItems items) ++ "]"
  | object fields => "\x7b" ++ joinWith "," (compactFields fields) ++ "\x7d"

/-- The texts of values. -/
def compactItems : List Json → List String
  | [] => []
  | item :: rest => compact item :: compactItems rest

/-- The texts of fields. -/
def compactFields : List (String × Json) → List String
  | [] => []
  | (name, value) :: rest => (quote name ++ ":" ++ compact value) :: compactFields rest

end

/-- A line break and two blanks for each level. -/
def lineBreak (level : Nat) : String :=
  String.ofList ('\n' :: List.replicate (2 * level) ' ')

/-- Puts lines, one level deeper, between brackets that stand on lines of their own. -/
def bracketed (start finish : String) (level : Nat) (lines : List String) : String :=
  if lines.isEmpty then start ++ finish
  else
    start ++ lineBreak (level + 1) ++ joinWith ("," ++ lineBreak (level + 1)) lines ++
      lineBreak level ++ finish

mutual

/-- The text of a value with one item on a line, at a level of nesting. -/
def prettyAt (level : Nat) : Json → String
  | array items => bracketed "[" "]" level (prettyItems level items)
  | object fields => bracketed "\x7b" "\x7d" level (prettyFields level fields)
  | null => "null"
  | bool value => if value then "true" else "false"
  | number value => value.text
  | string value => quote value

/-- The texts of items, one level deeper. -/
def prettyItems (level : Nat) : List Json → List String
  | [] => []
  | item :: rest => prettyAt (level + 1) item :: prettyItems level rest

/-- The texts of fields, one level deeper. -/
def prettyFields (level : Nat) : List (String × Json) → List String
  | [] => []
  | (name, value) :: rest =>
      (quote name ++ ": " ++ prettyAt (level + 1) value) :: prettyFields level rest

end

/-- The text of a value with one item on a line. -/
def pretty (value : Json) : String :=
  prettyAt 0 value

end MessageCard.Json
