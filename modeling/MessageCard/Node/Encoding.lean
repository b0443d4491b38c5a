import MessageCard.Json.Writer
import MessageCard.Node.Basic

/-!
A tree as JSON.  Attributes that say nothing are left out, and all of them when none does.
-/

namespace MessageCard

/-- A width as JSON; one that is not finite is `null`. -/
def widthToJson (width : Double) : Json :=
  if width.isFinite then .number (.double width) else .null

/-- The fields of the attributes that say something. -/
def Attrs.fields (attrs : Attrs) : Fields :=
  (attrs.template.map fun template => ("template", Json.string template.name)).toList ++
    (if attrs.compact then [("compact", .bool true)] else []) ++
    (attrs.customWidth.map fun width => ("custom_width", widthToJson width)).toList ++
    (attrs.size.map fun size => ("size", Json.number (.integer size))).toList ++
    (attrs.preview.map fun preview => ("preview", Json.bool preview)).toList ++
    (attrs.alt.map fun alt => ("alt", Json.string alt)).toList ++
    (if attrs.inlines.isEmpty then [] else [("inline", .array (Run.allToJson attrs.inlines))])

namespace Node

mutual

/-- The tree as JSON. -/
def toJson : Node → Json
  | ⟨kind, classes, content, attrs⟩ =>
      .object
        ([("kind", .string kind.name), ("classes", .array (classes.map .string)),
            ("content", contentToJson content)] ++
          (if attrs.fields.isEmpty then [] else [("attrs", .object attrs.fields)]))

/-- The content as JSON. -/
def contentToJson : Content Node → Json
  | .empty => Run.tagged "empty" none
  | .text value => Run.tagged "text" (some (.string value))
  | .locator value => Run.tagged "locator" (some (.string value))
  | .children nodes => Run.tagged "children" (some (.array (allToJson nodes)))

/-- The trees as JSON. -/
def allToJson : List Node → List Json
  | [] => []
  | node :: rest => toJson node :: allToJson rest

end

end Node

end MessageCard
