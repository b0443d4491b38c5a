/-!
Looking for one text inside another, and the lines of a text.
-/

namespace MessageCard.Text

/-- What stands before and after the first place of a mark in a text. -/
def splitAt? (mark : List Char) : List Char → Option (List Char × List Char)
  | [] => if mark.isEmpty then some ([], []) else none
  | c :: rest =>
      if mark.isPrefixOf (c :: rest) then some ([], (c :: rest).drop mark.length)
      else (splitAt? mark rest).map fun (before, behind) => (c :: before, behind)

/-- Whether a text has a part. -/
def hasPart (part text : String) : Bool :=
  (splitAt? part.toList text.toList).isSome

/-- The lines of a text, each without the newline that ends it; a text that ends with a newline
has no line behind it. -/
def splitLines : List Char → List (List Char)
  | [] => []
  | c :: rest =>
      if c = '\n' then [] :: splitLines rest
      else
        match splitLines rest with
        | [] => [[c]]
        | line :: more => (c :: line) :: more

/-- The lines of a text, without the newline or the carriage return and newline that end
them. -/
def lines (text : List Char) : List (List Char) :=
  let parts := splitLines text
  let ended := if text.getLast? = some '\n' then parts.length else parts.length - 1
  (parts.take ended).map (fun line =>
    if line.getLast? = some '\r' then line.dropLast else line) ++ parts.drop ended

end MessageCard.Text
