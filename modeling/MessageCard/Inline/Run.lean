import MessageCard.Json.Value

/-!
Inline runs: formatted text inside a line.  A run has a plain form without formatting, a
marked form that shows the formatting, and an encoding as JSON.
-/

namespace MessageCard

/-- A run of formatted text. -/
inductive Run
  | text (value : String)
  | strong (content : List Run)
  | emphasis (content : List Run)
  | strikethrough (content : List Run)
  | code (value : String)
  | link (href : String) (content : List Run)
  | softBreak
  | hardBreak
deriving Repr, Inhabited

namespace Run

mutual

/-- The text of a run with its formatting dropped. -/
def plain : Run → String
  | text value => value
  | strong content => plainAll content
  | emphasis content => plainAll content
  | strikethrough content => plainAll content
  | code value => value
  | link _ content => plainAll content
  | softBreak => " "
  | hardBreak => "\n"

/-- The plain texts of runs, joined. -/
def plainAll : List Run → String
  | [] => ""
  | run :: rest => plain run ++ plainAll rest

end

mutual

/-- The text of a run with marks for its formatting. -/
def marked : Run → String
  | text value => value
  | strong content => "**" ++ markedAll content ++ "**"
  | emphasis content => "*" ++ markedAll content ++ "*"
  | strikethrough content => "~~" ++ markedAll content ++ "~~"
  | code value => "\x60" ++ value ++ "\x60"
  | link href content => "[" ++ markedAll content ++ "](" ++ href ++ ")"
  | softBreak => "\n"
  | hardBreak => "\n"

/-- The marked texts of runs, joined. -/
def markedAll : List Run → String
  | [] => ""
  | run :: rest => marked run ++ markedAll rest

end

/-- A value that says its type. -/
def tagged (type : String) (value : Option Json) : Json :=
  .object (("type", .string type) :: (value.map (("value", ·))).toList)

mutual

/-- The run as JSON. -/
def toJson : Run → Json
  | text value => tagged "text" (some (.string value))
  | strong content => tagged "strong" (some (.array (allToJson content)))
  | emphasis content => tagged "emphasis" (some (.array (allToJson content)))
  | strikethrough content => tagged "strikethrough" (some (.array (allToJson content)))
  | code value => tagged "code" (some (.string value))
  | link href content =>
      tagged "link"
        (some (.object [("href", .string href), ("content", .array (allToJson content))]))
  | softBreak => tagged "soft_break" none
  | hardBreak => tagged "hard_break" none

/-- The runs as JSON. -/
def allToJson : List Run → List Json
  | [] => []
  | run :: rest => toJson run :: allToJson rest

end

end Run

end MessageCard
