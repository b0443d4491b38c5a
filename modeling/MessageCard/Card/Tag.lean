/-!
The closed vocabularies of a card: the tags of body elements and of note children, and the
color templates of a header.
-/

namespace MessageCard

/-- Finds the member of a vocabulary that has a name. -/
def byName? {α : Type} (members : List α) (name : α → String) (text : String) : Option α :=
  members.find? fun member => name member == text

/-- Names joined by commas, as messages list a vocabulary. -/
def listing (names : List String) : String :=
  String.intercalate ", " names

/-- Tags of the elements of a card body. -/
inductive ElementTag
  | columnSet
  | div
  | markdown
  | hr
  | img
  | note
  | actions
deriving DecidableEq, Repr

namespace ElementTag

/-- Every element tag, in the order in which messages list them. -/
def all : List ElementTag :=
  [columnSet, div, markdown, hr, img, note, actions]

/-- The tag as a document spells it. -/
def name : ElementTag → String
  | columnSet => "column_set"
  | div => "div"
  | markdown => "markdown"
  | hr => "hr"
  | img => "img"
  | note => "note"
  | actions => "actions"

/-- The tag that a document spells so. -/
def ofName? (text : String) : Option ElementTag :=
  byName? all name text

/-- Whether elements of the tag are known but yield no output. -/
def isDeferred : ElementTag → Bool
  | actions => true
  | markdown => true
  | _ => false

/-- The list of all element tags, for messages. -/
def allowed : String :=
  listing (all.map name)

end ElementTag

/-- Tags of the children of a note. -/
inductive ChildTag
  | plainText
  | larkMd
  | img
deriving DecidableEq, Repr

namespace ChildTag

/-- Every child tag, in the order in which messages list them. -/
def all : List ChildTag :=
  [plainText, larkMd, img]

/-- The tag as a document spells it. -/
def name : ChildTag → String
  | plainText => "plain_text"
  | larkMd => "lark_md"
  | img => "img"

/-- The tag that a document spells so. -/
def ofName? (text : String) : Option ChildTag :=
  byName? all name text

/-- The list of all child tags, for messages. -/
def allowed : String :=
  listing (all.map name)

end ChildTag

/-- Color templates of a header. -/
inductive Template
  | blue
  | wathet
  | turquoise
  | carmine
  | violet
  | indigo
  | red
  | green
  | yellow
  | purple
  | grey
  | standard
deriving DecidableEq, Repr

namespace Template

/-- Every template, in the order in which messages list them. -/
def all : List Template :=
  [blue, wathet, turquoise, carmine, violet, indigo, red, green, yellow, purple, grey, standard]

/-- The template as a document spells it. -/
def name : Template → String
  | blue => "blue"
  | wathet => "wathet"
  | turquoise => "turquoise"
  | carmine => "carmine"
  | violet => "violet"
  | indigo => "indigo"
  | red => "red"
  | green => "green"
  | yellow => "yellow"
  | purple => "purple"
  | grey => "grey"
  | standard => "default"

/-- The template that a document spells so. -/
def ofName? (text : String) : Option Template :=
  byName? all name text

/-- The list of all templates, for messages. -/
def allowed : String :=
  listing (all.map name)

end Template

end MessageCard
