import MessageCard.Node.Encoding
import MessageCard.Proofs.NodeGrammar
import MessageCard.Proofs.OrderedFields
import MessageCard.Proofs.OutlineLines

/-! Trees read back from their JSON form.  A decoder looks every field up by its name, so that it
reads a value whatever the order of its fields.  It undoes the encoder: what the encoder leaves out
is the default of what the decoder then assumes.  Hence trees of one JSON form are one tree.
-/

namespace MessageCard

open Json

-----------------------------------------------------------------------------------------
-- Values that say their type
-----------------------------------------------------------------------------------------

namespace Json

theorem string?_ordered (json : Json) : string? json.ordered = string? json := by
  cases json <;> rfl

/-- What is read of a field is read of it in order when order says nothing to the reader. -/
theorem bind_orderedFields {α : Type} {read : Json → Option α}
    (alike : ∀ json : Json, read json.ordered = read json) (fields : Fields) (name : String)
    : (field? (orderedFields fields) name).bind read = (field? fields name).bind read := by
  rw [field?_orderedFields, Option.bind_map]
  exact congrArg _ (funext alike)

end Json

namespace Run

/-- The type that a value says, and the value that it says it of. -/
def untagged? : Json → Option (String × Option Json)
  | .object fields =>
      ((field? fields "type").bind string?).map fun type => (type, field? fields "value")
  | _ => none

variable {json value : Json} {type : String}

theorem untagged?_tagged (type : String) (value : Option Json)
    : untagged? (tagged type value) = some (type, value) := by
  cases value <;> rfl

theorem untagged?_ordered (json : Json)
    : untagged? json.ordered
      = (untagged? json).map fun said => (said.1, said.2.map Json.ordered) := by
  cases json with
  | object fields =>
      rw [Json.ordered]
      simp only [untagged?, field?_orderedFields]
      cases field? fields "type" with
      | none => rfl
      | some type => cases type <;> rfl
  | _ => rfl

/-- A value that says its type is larger than what it says it of. -/
theorem sizeOf_lt_of_untagged (said : untagged? json = some (type, some value))
    : sizeOf value < sizeOf json := by
  cases json with
  | object fields =>
      obtain ⟨_, _, same⟩ := Option.map_eq_some_iff.mp said
      exact sizeOf_lt_of_field (Prod.mk.inj same).2
  | _ => cases said

-----------------------------------------------------------------------------------------
-- Runs
-----------------------------------------------------------------------------------------

/-- The run of a type without a value. -/
def break? (type : String) : Option Run :=
  if type = "soft_break" then some .softBreak
  else if type = "hard_break" then some .hardBreak
  else none

/-- The run of a type with a text. -/
def leaf? (type value : String) : Option Run :=
  if type = "text" then some (.text value)
  else if type = "code" then some (.code value)
  else none

/-- The run of a type with runs inside. -/
def container? (type : String) (content : List Run) : Option Run :=
  if type = "strong" then some (.strong content)
  else if type = "emphasis" then some (.emphasis content)
  else if type = "strikethrough" then some (.strikethrough content)
  else none

mutual

/-- The run that a value describes. -/
def ofJson? (json : Json) : Option Run :=
  match said : untagged? json with
  | some (type, some value) =>
      have := sizeOf_lt_of_untagged said
      ofValue? type value
  | some (type, none) => break? type
  | none => none
termination_by sizeOf json

/-- The run of a type with a value. -/
def ofValue? (type : String) (value : Json) : Option Run :=
  match value with
  | .string value => leaf? type value
  | .array items => (allOfJson? items).bind (container? type)
  | .object fields =>
      match found : field? fields "content" with
      | some (.array items) =>
          have : sizeOf items < 1 + sizeOf fields := by simpa using sizeOf_lt_of_items found
          if type = "link" then
            ((field? fields "href").bind string?).bind fun href =>
              (allOfJson? items).map (.link href)
          else none
      | _ => none
  | _ => none
termination_by sizeOf value

/-- The runs that values describe. -/
def allOfJson? : List Json → Option (List Run)
  | [] => some []
  | json :: rest => (ofJson? json).bind fun run => (allOfJson? rest).map (run :: ·)
termination_by items => sizeOf items

end

theorem ofJson?_none (unsaid : untagged? json = none) : ofJson? json = none := by
  rw [ofJson?]
  split <;> simp_all

theorem ofJson?_break (said : untagged? json = some (type, none))
    : ofJson? json = break? type := by
  rw [ofJson?]
  split <;> simp_all

theorem ofJson?_value (said : untagged? json = some (type, some value))
    : ofJson? json = ofValue? type value := by
  rw [ofJson?]
  split <;> simp_all

theorem ofValue?_object {fields : Fields} {items : List Json}
    (found : field? fields "content" = some (.array items))
    : ofValue? type (.object fields)
      = if type = "link" then
          ((field? fields "href").bind string?).bind fun href =>
            (allOfJson? items).map (.link href)
        else none := by
  rw [ofValue?]
  split <;> simp_all

theorem ofValue?_object_none {fields : Fields}
    (lacking : ∀ items, field? fields "content" ≠ some (.array items))
    : ofValue? type (.object fields) = none := by
  rw [ofValue?]
  split
  · rename_i items found
    exact absurd found (lacking items)
  · rfl

mutual

/-- The order of fields says nothing to the decoder, by induction over the value along the recursion
of the decoder.
-/
theorem ofJson?_ordered (json : Json) : ofJson? json.ordered = ofJson? json := by
  have both := untagged?_ordered json
  cases said : untagged? json with
  | none => rw [ofJson?_none said, ofJson?_none (by rw [both, said]; rfl)]
  | some found =>
      rcases found with ⟨type, value⟩
      cases value with
      | none => rw [ofJson?_break said, ofJson?_break (by rw [both, said]; rfl)]
      | some value =>
          have := sizeOf_lt_of_untagged said
          rw [ofJson?_value said, ofJson?_value (by rw [both, said]; rfl), ofValue?_ordered]
termination_by sizeOf json

theorem ofValue?_ordered (type : String) (value : Json)
    : ofValue? type value.ordered = ofValue? type value := by
  cases value with
  | array items => rw [Json.ordered, ofValue?, ofValue?, allOfJson?_ordered items]
  | object fields =>
      rw [Json.ordered]
      have content := field?_orderedFields fields "content"
      by_cases given : ∃ items, field? fields "content" = some (.array items)
      · obtain ⟨items, found⟩ := given
        have : sizeOf items < 1 + sizeOf fields := by simpa using sizeOf_lt_of_items found
        rw [found] at content
        rw [ofValue?_object found, ofValue?_object content, allOfJson?_ordered items,
          bind_orderedFields string?_ordered]
      · have lacking (items : List Json) : field? fields "content" ≠ some (.array items) :=
          fun found => given ⟨items, found⟩
        rw [ofValue?_object_none lacking, ofValue?_object_none]
        intro items found
        rw [content] at found
        obtain ⟨value, listed, same⟩ := Option.map_eq_some_iff.mp found
        cases value with
        | array others => exact lacking others listed
        | _ => cases same
  | _ => rfl
termination_by sizeOf value

theorem allOfJson?_ordered (items : List Json)
    : allOfJson? (orderedItems items) = allOfJson? items := by
  cases items with
  | nil => rfl
  | cons first rest =>
      rw [orderedItems, allOfJson?, allOfJson?, ofJson?_ordered first, allOfJson?_ordered rest]
termination_by sizeOf items

end

theorem ofJson?_tagged (type : String) (value : Json)
    : ofJson? (tagged type (some value)) = ofValue? type value :=
  ofJson?_value (untagged?_tagged type value)

mutual

/-- A run is read back from its JSON form, by induction over it. -/
theorem ofJson?_toJson (run : Run) : ofJson? run.toJson = some run := by
  cases run with
  | text value => rw [toJson, ofJson?_tagged, ofValue?]; rfl
  | code value => rw [toJson, ofJson?_tagged, ofValue?]; rfl
  | strong content =>
      rw [toJson, ofJson?_tagged, ofValue?, allOfJson?_toJson content]
      rfl
  | emphasis content =>
      rw [toJson, ofJson?_tagged, ofValue?, allOfJson?_toJson content]
      rfl
  | strikethrough content =>
      rw [toJson, ofJson?_tagged, ofValue?, allOfJson?_toJson content]
      rfl
  | link href content =>
      rw [toJson, ofJson?_tagged, ofValue?_object rfl, allOfJson?_toJson content]
      rfl
  | softBreak => exact ofJson?_break (untagged?_tagged "soft_break" none)
  | hardBreak => exact ofJson?_break (untagged?_tagged "hard_break" none)

theorem allOfJson?_toJson (runs : List Run) : allOfJson? (allToJson runs) = some runs := by
  cases runs with
  | nil => rw [allToJson, allOfJson?]
  | cons run rest =>
      rw [allToJson, allOfJson?, ofJson?_toJson run, allOfJson?_toJson rest]
      rfl

end

end Run

-----------------------------------------------------------------------------------------
-- Fields
-----------------------------------------------------------------------------------------

namespace Json

/-- The width that a value describes. -/
def width? : Json → Option Double
  | number (.double value) => some value
  | _ => none

/-- The size that a value describes. -/
def size? : Json → Option Nat
  | number (.integer value) => some value.toNat
  | _ => none

/-- The runs that a value describes. -/
def runs? (json : Json) : Option (List Run) :=
  (array? json).bind Run.allOfJson?

/-- The fields of the names that have a value. -/
def given (entries : List (String × Option Json)) : Fields :=
  entries.flatMap fun entry => (entry.2.map (entry.1, ·)).toList

/-- A name without a value among the entries is no field. -/
theorem field?_given_none {entries : List (String × Option Json)} {name : String}
    (unlisted : name ∉ entries.map Prod.fst)
    : field? (given entries) name = none := by
  rw [field?, List.lookup_eq_none_iff]
  intro field member
  obtain ⟨entry, listed, inside⟩ := List.mem_flatMap.mp member
  obtain ⟨value, _, rfl⟩ := Option.map_eq_some_iff.mp (Option.mem_toList.mp inside)
  exact bne_iff_ne.mpr fun same => unlisted (same ▸ List.mem_map_of_mem listed)

/-- Where no name stands twice, a name finds its own value, by induction over the entries. -/
theorem field?_given {entries : List (String × Option Json)}
    (distinct : (entries.map Prod.fst).Nodup) (name : String)
    : field? (given entries) name = (entries.lookup name).join := by
  induction entries with
  | nil => rfl
  | cons first rest ih =>
      rcases first with ⟨other, content⟩
      obtain ⟨fresh, once⟩ := List.nodup_cons.mp distinct
      by_cases same : name = other
      · subst same
        rw [List.lookup_cons_self]
        cases content with
        | none =>
            show field? (given rest) name = none
            exact field?_given_none fresh
        | some content => exact field?_cons.trans (if_pos rfl)
      · have apart : (name == other) = false := beq_false_of_ne same
        simp only [List.lookup_cons, apart]
        cases content with
        | none => exact ih once
        | some content => exact (field?_cons.trans (if_neg same)).trans (ih once)

end Json

-----------------------------------------------------------------------------------------
-- Attributes
-----------------------------------------------------------------------------------------

namespace Attrs

/-- The attributes that fields describe: what is not among them says nothing. -/
def ofFields (fields : Fields) : Attrs where
  template := ((field? fields "template").bind string?).bind Template.ofName?
  compact := ((field? fields "compact").bind bool?).getD false
  customWidth := (field? fields "custom_width").bind width?
  size := (field? fields "size").bind size?
  preview := (field? fields "preview").bind bool?
  alt := (field? fields "alt").bind string?
  inlines := ((field? fields "inline").bind runs?).getD []

theorem ofFields_orderedFields (fields : Fields)
    : ofFields (orderedFields fields) = ofFields fields := by
  have bools (json : Json) : bool? json.ordered = bool? json := by cases json <;> rfl
  have widths (json : Json) : width? json.ordered = width? json := by cases json <;> rfl
  have sizes (json : Json) : size? json.ordered = size? json := by cases json <;> rfl
  have runs (json : Json) : runs? json.ordered = runs? json := by
    cases json with
    | array items =>
        simp only [runs?, Json.ordered, array?, Option.bind_some, Run.allOfJson?_ordered]
    | _ => rfl
  rw [ofFields, ofFields, bind_orderedFields string?_ordered, bind_orderedFields bools,
    bind_orderedFields widths, bind_orderedFields sizes, bind_orderedFields bools,
    bind_orderedFields string?_ordered, bind_orderedFields runs]

/-- The names of all attributes with what is said under them. -/
def entries (attrs : Attrs) : List (String × Option Json) :=
  [("template", attrs.template.map fun template => .string template.name),
    ("compact", if attrs.compact then some (.bool true) else Option.none),
    ("custom_width", attrs.customWidth.map widthToJson),
    ("size", attrs.size.map fun size => .number (.integer size)),
    ("preview", attrs.preview.map .bool),
    ("alt", attrs.alt.map .string),
    ("inline", if attrs.inlines.isEmpty then Option.none
      else some (.array (Run.allToJson attrs.inlines)))]

theorem fields_eq (attrs : Attrs) : attrs.fields = given attrs.entries := by
  rcases attrs with ⟨template, compact, customWidth, size, preview, alt, inlines⟩
  simp only [fields, entries, given, List.flatMap_cons, List.flatMap_nil, Option.map_map,
    List.append_assoc, List.append_nil]
  cases compact <;> cases inlines <;> rfl

theorem field?_fields (attrs : Attrs) (name : String)
    : field? attrs.fields name = (attrs.entries.lookup name).join := by
  have distinct : (attrs.entries.map Prod.fst).Nodup := by
    show ["template", "compact", "custom_width", "size", "preview", "alt", "inline"].Nodup
    decide
  rw [fields_eq, field?_given distinct]

/-- Attributes are read back from their fields, if their width is a number in JSON.  What is left
out is what a name that is not found stands for, and what is said is read back.
-/
theorem ofFields_fields (attrs : Attrs) (finite : attrs.customWidth.all Double.isFinite = true)
    : ofFields attrs.fields = attrs := by
  have template
      : ((attrs.template.map fun template => Json.string template.name).bind string?).bind
          Template.ofName? = attrs.template := by
    cases attrs.template with
    | none => rfl
    | some template => exact Template.ofName?_name template
  have compact
      : ((if attrs.compact then some (Json.bool true) else Option.none).bind bool?).getD false
        = attrs.compact := by
    cases attrs.compact <;> rfl
  have width : (attrs.customWidth.map widthToJson).bind width? = attrs.customWidth := by
    cases given : attrs.customWidth with
    | none => rfl
    | some width =>
        rw [given, Option.all_some] at finite
        rw [Option.map_some, Option.bind_some, widthToJson, if_pos finite, width?]
  have size : (attrs.size.map fun size => Json.number (.integer size)).bind size? = attrs.size := by
    cases attrs.size <;> rfl
  have preview : (attrs.preview.map Json.bool).bind bool? = attrs.preview := by
    cases attrs.preview <;> rfl
  have alt : (attrs.alt.map Json.string).bind string? = attrs.alt := by
    cases attrs.alt <;> rfl
  have inlines
      : ((if attrs.inlines.isEmpty then Option.none
          else some (Json.array (Run.allToJson attrs.inlines))).bind runs?).getD []
        = attrs.inlines := by
    cases attrs.inlines with
    | nil => rfl
    | cons run rest => exact congrArg (Option.getD · []) (Run.allOfJson?_toJson (run :: rest))
  rw [ofFields]
  simp only [field?_fields]
  exact Eq.mpr (mk.injEq ..) ⟨template, compact, width, size, preview, alt, inlines⟩

end Attrs

-----------------------------------------------------------------------------------------
-- Trees
-----------------------------------------------------------------------------------------

namespace Node

/-- The texts of the strings in an array. -/
def textsOf? : Json → Option (List String)
  | .array items => some (items.filterMap string?)
  | _ => none

/-- The content of a type with nothing below. -/
def leafOf? (type : String) : Option Json → Option (Content Node)
  | none => if type = "empty" then some .empty else none
  | some (.string value) =>
      if type = "text" then some (.text value)
      else if type = "locator" then some (.locator value)
      else none
  | some _ => none

mutual

/-- The tree that a value describes. -/
def ofJson? (json : Json) : Option Node :=
  match json with
  | .object fields =>
      match found : field? fields "content" with
      | some value =>
          have : sizeOf value < 1 + sizeOf fields := by simpa using sizeOf_lt_of_field found
          (((field? fields "kind").bind string?).bind Kind.ofName?).bind fun kind =>
            ((field? fields "classes").bind textsOf?).bind fun classes =>
              (contentOfJson? value).map fun content =>
                { kind
                  classes
                  content
                  attrs := .ofFields (((field? fields "attrs").bind object?).getD []) }
      | none => none
  | _ => none
termination_by sizeOf json

/-- The content that a value describes. -/
def contentOfJson? (json : Json) : Option (Content Node) :=
  match said : Run.untagged? json with
  | some (type, some (.array items)) =>
      have : sizeOf items < sizeOf json :=
        Nat.lt_trans (by simp) (Run.sizeOf_lt_of_untagged said)
      if type = "children" then (allOfJson? items).map .children else none
  | some (type, value) => leafOf? type value
  | none => none
termination_by sizeOf json

/-- The trees that values describe. -/
def allOfJson? : List Json → Option (List Node)
  | [] => some []
  | json :: rest => (ofJson? json).bind fun node => (allOfJson? rest).map (node :: ·)
termination_by items => sizeOf items

end

variable {json value : Json} {fields : Fields} {type : String}

theorem ofJson?_object (found : field? fields "content" = some value)
    : ofJson? (.object fields)
      = (((field? fields "kind").bind string?).bind Kind.ofName?).bind fun kind =>
          ((field? fields "classes").bind textsOf?).bind fun classes =>
            (contentOfJson? value).map fun content =>
              { kind
                classes
                content
                attrs := .ofFields (((field? fields "attrs").bind object?).getD []) } := by
  rw [ofJson?]
  split <;> simp_all

theorem ofJson?_of_fields (kind : Kind) (classes : List String) {content : Content Node}
    (kinds : ((field? fields "kind").bind string?).bind Kind.ofName? = some kind)
    (texts : (field? fields "classes").bind textsOf? = some classes)
    (found : field? fields "content" = some value) (inside : contentOfJson? value = some content)
    : ofJson? (.object fields)
      = some
          ⟨kind, classes, content, .ofFields (((field? fields "attrs").bind object?).getD [])⟩ := by
  rw [ofJson?_object found, kinds, texts, inside]
  rfl

theorem ofJson?_object_none (lacking : field? fields "content" = none)
    : ofJson? (.object fields) = none := by
  rw [ofJson?]
  split <;> simp_all

theorem contentOfJson?_none (unsaid : Run.untagged? json = none) : contentOfJson? json = none := by
  rw [contentOfJson?]
  split <;> simp_all

theorem contentOfJson?_array {items : List Json}
    (said : Run.untagged? json = some (type, some (.array items)))
    : contentOfJson? json
      = if type = "children" then (allOfJson? items).map .children else none := by
  rw [contentOfJson?]
  split <;> simp_all

theorem contentOfJson?_leaf {value : Option Json} (said : Run.untagged? json = some (type, value))
    (leaf : ∀ items, value ≠ some (.array items))
    : contentOfJson? json = leafOf? type value := by
  rw [contentOfJson?]
  split
  · rename_i found
    obtain ⟨_, same⟩ := Prod.mk.inj (Option.some.inj (said.symm.trans found))
    exact absurd same (leaf _)
  · simp_all
  · simp_all

theorem textsOf?_ordered (json : Json) : textsOf? json.ordered = textsOf? json := by
  cases json with
  | array items =>
      rw [Json.ordered, textsOf?, textsOf?]
      congr 1
      induction items with
      | nil => rfl
      | cons first rest ih =>
          rw [orderedItems, List.filterMap_cons, List.filterMap_cons, string?_ordered, ih]
  | _ => rfl

theorem leafOf?_ordered (type : String) (value : Option Json)
    : leafOf? type (value.map Json.ordered) = leafOf? type value := by
  cases value with
  | none => rfl
  | some value => cases value <;> rfl

mutual

/-- The order of fields says nothing to the decoder, by induction over the value along the recursion
of the decoder.
-/
theorem ofJson?_ordered (json : Json) : ofJson? json.ordered = ofJson? json := by
  cases json with
  | object fields =>
      have content := field?_orderedFields fields "content"
      rw [Json.ordered]
      cases found : field? fields "content" with
      | none =>
          rw [found] at content
          rw [ofJson?_object_none found, ofJson?_object_none content]
      | some value =>
          have : sizeOf value < 1 + sizeOf fields := by simpa using sizeOf_lt_of_field found
          have attrs
              : Attrs.ofFields (((field? (orderedFields fields) "attrs").bind object?).getD [])
                = Attrs.ofFields (((field? fields "attrs").bind object?).getD []) := by
            rw [field?_orderedFields]
            cases field? fields "attrs" with
            | none => rfl
            | some given =>
                cases given with
                | object inner => exact Attrs.ofFields_orderedFields inner
                | _ => rfl
          rw [found] at content
          rw [ofJson?_object found, ofJson?_object content, bind_orderedFields string?_ordered,
            bind_orderedFields textsOf?_ordered, contentOfJson?_ordered value, attrs]
  | _ => simp only [Json.ordered, ofJson?]
termination_by sizeOf json

theorem contentOfJson?_ordered (json : Json)
    : contentOfJson? json.ordered = contentOfJson? json := by
  have both := Run.untagged?_ordered json
  cases said : Run.untagged? json with
  | none => rw [contentOfJson?_none said, contentOfJson?_none (by rw [both, said]; rfl)]
  | some found =>
      rcases found with ⟨type, value⟩
      rw [said] at both
      by_cases array : ∃ items, value = some (.array items)
      · obtain ⟨items, rfl⟩ := array
        have : sizeOf items < sizeOf json := Nat.lt_trans (by simp) (Run.sizeOf_lt_of_untagged said)
        rw [contentOfJson?_array said, contentOfJson?_array both, allOfJson?_ordered items]
      · have leaf (items : List Json) : value ≠ some (.array items) := fun same =>
          array ⟨items, same⟩
        rw [contentOfJson?_leaf said leaf, contentOfJson?_leaf both, leafOf?_ordered]
        intro items same
        obtain ⟨value, rfl, other⟩ := Option.map_eq_some_iff.mp same
        cases value with
        | array items => exact leaf items rfl
        | _ => cases other
termination_by sizeOf json

theorem allOfJson?_ordered (items : List Json)
    : allOfJson? (orderedItems items) = allOfJson? items := by
  cases items with
  | nil => rfl
  | cons first rest =>
      rw [orderedItems, allOfJson?, allOfJson?, ofJson?_ordered first, allOfJson?_ordered rest]
termination_by sizeOf items

end

/-- Every width in the tree is finite. -/
def FiniteWidths (tree : Node) : Prop :=
  ∀ depth node, tree.Lies depth node → node.attrs.customWidth.all Double.isFinite = true

theorem FiniteWidths.child {tree child : Node} (finite : tree.FiniteWidths)
    (listed : child ∈ tree.children)
    : child.FiniteWidths := fun depth node lies =>
  finite (depth + 1) node (lies.of_child listed)

theorem finiteWidths_iff {tree : Node}
    : tree.FiniteWidths
      ↔ ∀ entry ∈ tree.preorder 0, entry.2.attrs.customWidth.all Double.isFinite = true := by
  constructor
  · intro finite entry member
    obtain ⟨below, _, lies⟩ := mem_preorder_iff.mp member
    exact finite below entry.2 lies
  · intro finite depth node lies
    exact finite (depth, node) (mem_preorder_iff.mpr ⟨depth, (Nat.zero_add depth).symm, lies⟩)

/-- Trees are read back one by one when each of them is, by induction over the list. -/
theorem allOfJson?_allToJson {nodes : List Node}
    (each : ∀ node ∈ nodes, ofJson? node.toJson = some node)
    : allOfJson? (allToJson nodes) = some nodes := by
  induction nodes with
  | nil => rw [allToJson, allOfJson?]
  | cons node rest ih =>
      obtain ⟨first, later⟩ := List.forall_mem_cons.mp each
      rw [allToJson, allOfJson?, first, ih later]
      rfl

/-- The content of a node is read back when each of its children is. -/
theorem contentOfJson?_contentToJson {content : Content Node}
    (each : ∀ nodes, content = .children nodes → ∀ node ∈ nodes, ofJson? node.toJson = some node)
    : contentOfJson? (contentToJson content) = some content := by
  cases content with
  | children nodes =>
      rw [contentToJson, contentOfJson?_array (Run.untagged?_tagged _ _),
        allOfJson?_allToJson (each nodes rfl)]
      rfl
  | empty => exact contentOfJson?_leaf (Run.untagged?_tagged _ _) nofun
  | text value => exact contentOfJson?_leaf (Run.untagged?_tagged _ _) nofun
  | locator value => exact contentOfJson?_leaf (Run.untagged?_tagged _ _) nofun

/-- A tree is read back from its JSON form, by induction from the leaves. -/
theorem ofJson?_toJson {node : Node} (finite : node.FiniteWidths)
    : ofJson? node.toJson = some node := by
  induction node using fromChildren with
  | step node ih =>
      have width := finite 0 node .root
      rcases node with ⟨kind, classes, content, attrs⟩
      have inside : contentOfJson? (contentToJson content) = some content := by
        refine contentOfJson?_contentToJson fun nodes same child listed => ?_
        subst same
        exact ih child listed (finite.child listed)
      have written
          : ((field? (if attrs.fields.isEmpty then [] else [("attrs", .object attrs.fields)])
              "attrs").bind object?).getD [] = attrs.fields := by
        cases attrs.fields <;> rfl
      have names : (classes.map Json.string).filterMap string? = classes := by
        rw [List.filterMap_map]
        exact List.filterMap_some
      rw [toJson]
      refine (ofJson?_of_fields kind classes ?kinds ?texts rfl inside).trans ?decoded
      case kinds => exact Kind.ofName?_name kind
      case texts => exact congrArg some names
      case decoded =>
        have whole := (congrArg Attrs.ofFields written).trans (Attrs.ofFields_fields attrs width)
        exact congrArg some (congrArg (mk kind classes content) whole)

/-- Trees of one JSON form are one tree: the fields that are left out and the types that are said
lose nothing, at any depth, when every width is finite.
-/
theorem toJson_injective {node other : Node} (finite : node.FiniteWidths)
    (otherFinite : other.FiniteWidths) (same : node.toJson.ordered = other.toJson.ordered)
    : node = other := by
  have decoded : ofJson? node.toJson = ofJson? other.toJson := by
    rw [← ofJson?_ordered node.toJson, same, ofJson?_ordered]
  rw [ofJson?_toJson finite, ofJson?_toJson otherFinite] at decoded
  exact Option.some.inj decoded

/-- A card with a template, an image with a width and a note whose text has runs inside runs. -/
def postcard : Node :=
  { kind := .root
    classes := [Style.card]
    content := .children
      [{ kind := .header
         classes := [Style.header, "blue"]
         content := .text ""
         attrs := { template := some .blue } },
        { kind := .img
          classes := []
          content := .locator "key"
          attrs :=
            { compact := true
              customWidth := some (.ofNat 278)
              preview := some false
              alt := some "" } },
        { kind := .note
          classes := ["", "note"]
          content := .children
            [{ kind := .embeddedText
               classes := []
               content := .empty
               attrs :=
                { inlines := [.link "" [.strong [.code "value"], .softBreak], .hardBreak] } }]
          attrs := .none }]
    attrs := .none }

/-- The same card, built step by step. -/
def builtPostcard : Node :=
  (new .root [Style.card]).withChildren
    [(((new .header [Style.header]).withClass "blue").withText "").withAttrs
        { template := some .blue },
      ((new .img []).withLocator "key").withAttrs
        { compact := true
          customWidth := some (.ofNat 278)
          preview := some false
          alt := some "" },
      (new .note ["", "note"]).withChildren
        [(new .embeddedText []).withAttrs
          { inlines := [.link "" [.strong [.code "value"], .softBreak], .hardBreak] }]]

/-- The widths of the card are finite, by evaluation of its nodes. -/
theorem postcard_toJson
    : postcard.FiniteWidths
      ∧ builtPostcard.FiniteWidths
      ∧ postcard.toJson.ordered = builtPostcard.toJson.ordered
      ∧ postcard = builtPostcard :=
  have finite := finiteWidths_iff.mpr (by decide +kernel)
  have builtFinite := finiteWidths_iff.mpr (by decide +kernel)
  ⟨finite, builtFinite, rfl, toJson_injective finite builtFinite rfl⟩

/-- Widths that are not finite have no JSON form of their own. -/
example
    : widthToJson (.ofMagnitude false Double.infiniteMagnitude)
      = widthToJson (.ofMagnitude true Double.infiniteMagnitude) := by
  rfl

end Node

end MessageCard
