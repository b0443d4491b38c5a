import MessageCard.Node.Basic
import MessageCard.Node.Stylesheet

/-!
A tree as HTML.  The markup is a list of tokens; the strings of a document reach it only as
text and as attribute values, whose characters are escaped when the tokens are written.
-/

namespace MessageCard.Html

/-- The tags of the markup. -/
inductive Tag
  | div
  | style
  | hr
  | img
  | span
  | strong
  | em
  | del
  | code
  | a
  | br
deriving DecidableEq, Repr

/-- The tag as markup spells it. -/
def Tag.name : Tag → String
  | div => "div"
  | style => "style"
  | hr => "hr"
  | img => "img"
  | span => "span"
  | strong => "strong"
  | em => "em"
  | del => "del"
  | code => "code"
  | a => "a"
  | br => "br"

/-- The attributes of the markup. -/
inductive Attribute
  | classes
  | src
  | alt
  | style
  | href
deriving DecidableEq, Repr

/-- The attribute as markup spells it. -/
def Attribute.name : Attribute → String
  | classes => "class"
  | src => "src"
  | alt => "alt"
  | style => "style"
  | href => "href"

/-- A token of the markup. -/
inductive Token
  | start (tag : Tag) (attributes : List (Attribute × String))
  | finish (tag : Tag)
  | text (value : String)
  | stylesheet
deriving DecidableEq, Repr

/-! ## Tokens of runs and nodes -/

mutual

/-- The markup of a run. -/
def ofRun : Run → List Token
  | .text value => [.text value]
  | .code value => [.start .code [], .text value, .finish .code]
  | .strong content => .start .strong [] :: ofRuns content ++ [.finish .strong]
  | .emphasis content => .start .em [] :: ofRuns content ++ [.finish .em]
  | .strikethrough content => .start .del [] :: ofRuns content ++ [.finish .del]
  | .link href content => .start .a [(.href, href)] :: ofRuns content ++ [.finish .a]
  | .softBreak => [.text " "]
  | .hardBreak => [.start .br []]

/-- The markup of runs. -/
def ofRuns : List Run → List Token
  | [] => []
  | run :: rest => ofRun run ++ ofRuns rest

end

/-- The value of the class attribute. -/
def classValue (classes : List String) : Attribute × String :=
  (.classes, String.intercalate " " classes)

/-- The width of an image as a style. -/
def widthStyle (width : Double) : Attribute × String :=
  (.style, "max-width: " ++ width.plain ++ "px")

/-- The text of some content, empty if it has none. -/
def textOf {α : Type} : Content α → String
  | .text value => value
  | _ => ""

/-- The locator of some content, empty if it has none. -/
def locatorOf {α : Type} : Content α → String
  | .locator value => value
  | _ => ""

/-- The attributes of an image. -/
def imageAttributes (classes : List String) (content : Content Node) (attrs : Attrs)
    : List (Attribute × String) :=
  [classValue classes, (.src, locatorOf content), (.alt, attrs.alt.getD "")] ++
    (attrs.customWidth.map widthStyle).toList

mutual

/-- The markup of a tree. -/
def ofNode : Node → List Token
  | ⟨kind, classes, content, attrs⟩ =>
      match kind with
      | .root =>
          [.start .div [classValue classes], .start .style [], .stylesheet, .finish .style] ++
            ofChildren content ++ [.finish .div]
      | .hr => [.start .hr [classValue classes]]
      | .img => [.start .img (imageAttributes classes content attrs)]
      | .embeddedImg => [.start .img (imageAttributes classes content attrs)]
      | .embeddedText =>
          .start .span [classValue classes] ::
            (if attrs.inlines.isEmpty then [.text (textOf content)]
              else ofRuns attrs.inlines) ++ [.finish .span]
      | _ =>
          .start .div [classValue classes] :: ofContent content ++ [.finish .div]

/-- The markup of a text or of children. -/
def ofContent : Content Node → List Token
  | .text value => [.text value]
  | .children nodes => ofNodes nodes
  | .empty => []
  | .locator _ => []

/-- The markup of children. -/
def ofChildren : Content Node → List Token
  | .children nodes => ofNodes nodes
  | .text _ => []
  | .empty => []
  | .locator _ => []

/-- The markup of nodes. -/
def ofNodes : List Node → List Token
  | [] => []
  | node :: rest => ofNode node ++ ofNodes rest

end

/-! ## Writing -/

/-- A character as it stands in text and in attribute values. -/
def escapedChar (c : Char) : List Char :=
  if c = '&' then "&amp;".toList
  else if c = '<' then "&lt;".toList
  else if c = '>' then "&gt;".toList
  else if c = '"' then "&quot;".toList
  else if c = '\'' then "&#39;".toList
  else [c]

/-- A text with the characters of the markup escaped. -/
def escape (text : String) : String :=
  String.ofList (text.toList.flatMap escapedChar)

/-- An attribute as it stands in a tag. -/
def attributeText : Attribute × String → String
  | (name, value) => " " ++ name.name ++ "=\"" ++ escape value ++ "\""

/-- A token as it stands in the markup. -/
def Token.write : Token → String
  | start tag attributes =>
      "<" ++ tag.name ++ String.join (attributes.map attributeText) ++ ">"
  | finish tag => "</" ++ tag.name ++ ">"
  | text value => escape value
  | stylesheet => Style.sheet

/-- Writes tokens one after the other. -/
def write (tokens : List Token) : String :=
  String.join (tokens.map Token.write)

end MessageCard.Html

namespace MessageCard.Node

/-- The tree as HTML. -/
def html (node : Node) : String :=
  Html.write (Html.ofNode node)

end MessageCard.Node
