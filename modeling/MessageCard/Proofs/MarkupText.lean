import MessageCard.Proofs.EscapedText
import MessageCard.Proofs.MarkupNesting

/-! The text of rendered markup.  The strings of a tree reach the text escaped: every `<` in it
starts a tag of the renderer, every `&` an entity, and no value of an attribute ends early.  A reader
that takes the text apart into characters and tags finds the tags of the tree, nested as they were
written; the strings have no part in them.
-/

namespace MessageCard.Html

-----------------------------------------------------------------------------------------
-- Tags in the text
-----------------------------------------------------------------------------------------

/-- The value can stand between quotes in a tag: it ends neither of them, and starts no other tag. -/
def Sealed (value : String) : Prop :=
  ∀ c ∈ value.toList, c ≠ '"' ∧ c ≠ '<' ∧ c ≠ '>'

/-- The tags that the renderer writes: each has a known form, and sealed values. -/
inductive IsTag : List Char → Prop
  | start {tag : Tag} {attributes : List (Attribute × String)}
    (form : attributes.map Prod.fst ∈ tag.forms)
    (each : ∀ name value, (name, value) ∈ attributes → Sealed value)
    : IsTag
        ("<" ++ tag.name
          ++ String.join (attributes.map fun (name, value) =>
              " " ++ name.name ++ "=\"" ++ value ++ "\"")
          ++ ">").toList
  | finish {tag : Tag} (closed : tag.isVoid = false) : IsTag ("</" ++ tag.name ++ ">").toList

theorem Sealed.escape (value : String) : Sealed (escape value) := by
  intro c member
  have clean := escape_clean member
  simp only [List.mem_cons, not_or] at clean
  exact ⟨clean.2.2.1, clean.1, clean.2.1⟩

/-- No character of a name of a tag or an attribute is one of the markup. -/
theorem Tag.name_clean (tag : Tag) : ∀ c ∈ tag.name.toList, c ∉ ['&', '<', '>', '"', ' '] := by
  cases tag <;> exact not_mem_of_all (by decide)

theorem Attribute.name_clean (name : Attribute)
    : ∀ c ∈ name.name.toList, c ∉ ['&', '<', '>', '"', ' '] := by
  cases name <;> exact not_mem_of_all (by decide)

/-- No line of the stylesheet has a character that the markup gives a meaning. -/
theorem sheetLines_clean
    : ∀ line ∈ Style.sheetLines,
        ∃ chars, line = String.ofList chars ∧ ∀ c ∈ chars, c ∉ ['&', '<'] := by
  simp only [Style.sheetLines, List.forall_mem_cons, List.not_mem_nil, false_imp_iff, implies_true,
    and_true]
  and_intros
  -- the characters of a literal are read off it, which is faster than decoding its bytes
  all_goals exact ⟨_, rfl, not_mem_of_all (by decide +kernel)⟩

theorem sheet_clean : ∀ c ∈ Style.sheet.toList, c ∉ ['&', '<'] := by
  have newline : ∀ c ∈ "\n".toList, c ∉ ['&', '<'] := not_mem_of_all (by decide)
  intro c member
  simp only [Style.sheet, String.toList_append, String.toList_join, List.mem_append,
    List.mem_flatMap, List.mem_map] at member
  rcases member with first | ⟨_, ⟨line, listed, rfl⟩, member⟩
  · exact newline c first
  · obtain ⟨chars, rfl, clean⟩ := sheetLines_clean line listed
    rw [String.toList_append, String.toList_ofList] at member
    rcases List.mem_append.mp member with inside | last
    · exact clean c inside
    · exact newline c last

theorem write_cons (token : Token) (tokens : List Token)
    : write (token :: tokens) = token.write ++ write tokens := by
  rw [write, List.map_cons, String.join_cons, write]

theorem write_append (tokens others : List Token)
    : write (tokens ++ others) = write tokens ++ write others := by
  induction tokens with
  | nil => simp [write]
  | cons token rest ih =>
      rw [List.cons_append, write_cons, ih, write_cons, String.append_assoc]

theorem attributeText_not_start (name : Attribute) (value : String)
    : '<' ∉ (attributeText (name, value)).toList := by
  simp only [attributeText, String.toList_append, List.mem_append, not_or]
  refine ⟨⟨⟨⟨by decide, ?named⟩, by decide⟩, ?inside⟩, by decide⟩
  case named => exact fun member => name.name_clean _ member (by decide)
  case inside => exact fun member => escape_clean member (by decide)

/-- A tag is written as one with sealed values, which are the escaped ones. -/
theorem Token.start_isTag {tag : Tag} {attributes : List (Attribute × String)}
    (form : attributes.map Prod.fst ∈ tag.forms)
    : IsTag (Token.start tag attributes).write.toList := by
  have written
      : (attributes.map fun (name, value) => (name, escape value)).map
          (fun (name, value) => " " ++ name.name ++ "=\"" ++ value ++ "\"")
        = attributes.map attributeText := by
    rw [List.map_map]
    rfl
  rw [Token.write, ← written]
  refine .start ?form ?each
  case form =>
    rw [List.map_map]
    exact form
  case each =>
    intro name value member
    obtain ⟨⟨_, original⟩, _, same⟩ := List.mem_map.mp member
    cases same
    exact .escape original

/-- A tag that is written starts with the only `<` in it. -/
theorem Token.start_starts {tag : Tag} {attributes : List (Attribute × String)}
    (form : attributes.map Prod.fst ∈ tag.forms)
    : Starts '<' IsTag (Token.start tag attributes).write.toList := by
  have word := Token.start_isTag form
  have shape
      : (Token.start tag attributes).write.toList
        = '<' :: (tag.name ++ String.join (attributes.map attributeText) ++ ">").toList := by
    simp [Token.write]
  rw [shape] at word ⊢
  refine .of_word word ?_
  simp only [String.toList_append, String.toList_join, List.mem_append, List.mem_flatMap,
    List.mem_map, not_or]
  refine ⟨⟨?named, ?within⟩, by decide⟩
  case named => exact fun member => tag.name_clean _ member (by decide)
  case within =>
    rintro ⟨_, ⟨⟨name, value⟩, _, rfl⟩, member⟩
    exact attributeText_not_start name value member

theorem Token.finish_starts {tag : Tag} (closed : tag.isVoid = false)
    : Starts '<' IsTag (Token.finish tag).write.toList := by
  have shape : (Token.finish tag).write.toList = '<' :: ("/" ++ tag.name ++ ">").toList := by
    simp [Token.write]
  have word : IsTag (Token.finish tag).write.toList := .finish closed
  rw [shape] at word ⊢
  refine .of_word word ?_
  cases tag <;> decide

/-- Every `<` in the text of markup starts a tag, by induction over the markup. -/
theorem Markup.starts_tag {tokens : List Token} (markup : Markup tokens)
    : Starts '<' IsTag (write tokens).toList := by
  have text (value : String) : Starts '<' IsTag (Token.text value).write.toList :=
    .of_not_mem fun member => escape_clean member (by decide)
  have stylesheet : Starts '<' IsTag Token.stylesheet.write.toList :=
    .of_not_mem fun member => sheet_clean _ member (by decide)
  induction markup with
  | nil => exact .of_not_mem List.not_mem_nil
  | text value _ ih =>
      rw [write_cons, String.toList_append]
      exact (text value).append ih
  | stylesheet _ ih =>
      rw [write_cons, String.toList_append]
      exact stylesheet.append ih
  | void _ form _ ih =>
      rw [write_cons, String.toList_append]
      exact (Token.start_starts form).append ih
  | element closed form _ _ within later =>
      rw [write_cons, write_append, write_cons]
      simp only [String.toList_append]
      exact (Token.start_starts form).append
        (within.append ((Token.finish_starts closed).append later))

theorem attributeText_starts_entity (name : Attribute) (value : String)
    : Starts '&' (· ∈ entities) (attributeText (name, value)).toList := by
  simp only [attributeText, String.toList_append]
  refine ((((Starts.of_not_mem (by decide)).append ?named).append ?equals).append
    (escape_starts value)).append (.of_not_mem (by decide))
  case named => exact .of_not_mem fun member => name.name_clean _ member (by decide)
  case equals => exact .of_not_mem (by decide)

theorem Token.starts_entity (token : Token)
    : Starts '&' (· ∈ entities) token.write.toList := by
  cases token with
  | start tag attributes =>
      have named : Starts '&' (· ∈ entities) tag.name.toList :=
        .of_not_mem fun member => tag.name_clean _ member (by decide)
      simp only [Token.write, String.toList_append, String.toList_join, List.flatMap_map]
      refine (((Starts.of_not_mem (by decide)).append named).append (.flatMap ?_)).append
        (.of_not_mem (by decide))
      intro named _
      exact attributeText_starts_entity named.1 named.2
  | finish tag => exact .of_not_mem (by cases tag <;> decide)
  | text value => exact escape_starts value
  | stylesheet => exact .of_not_mem fun member => sheet_clean _ member (by decide)

/-- Every `&` in the text of tokens starts an entity. -/
theorem write_starts_entity (tokens : List Token)
    : Starts '&' (· ∈ entities) (write tokens).toList := by
  rw [write, String.toList_join, List.flatMap_map]
  exact .flatMap fun token _ => token.starts_entity

-----------------------------------------------------------------------------------------
-- Reading markup back
-----------------------------------------------------------------------------------------

/-- A part of markup: a character of its text, or a tag with the attributes it has. -/
inductive Piece
  | char (c : Char)
  | tag (name : String) (attributes : List (String × String))

/-- Where a reader stands: in text, in the name of a tag, in the name of an attribute, or in its
value; with what it has read of the tag.
-/
inductive Cursor
  | text
  | tagName (read : List Char)
  | attributeName (tag : String) (found : List (String × String)) (read : List Char)
  | attributeValue (tag : String) (found : List (String × String)) (name : String)
    (read : List Char)

/-- An attribute without a value, if anything was read of its name. -/
def bare (read : List Char) : List (String × String) :=
  if read = [] then [] else [(String.ofList read, "")]

/-- The parts of a text, read on from a cursor; a tag that is not ended is no part. -/
def pieces : Cursor → List Char → List Piece
  | _, [] => []
  | .text, c :: rest =>
      if c = '<' then pieces (.tagName []) rest else .char c :: pieces .text rest
  | .tagName read, c :: rest =>
      if c = '>' then .tag (String.ofList read) [] :: pieces .text rest
      else if c = ' ' then pieces (.attributeName (String.ofList read) [] []) rest
      else pieces (.tagName (read ++ [c])) rest
  | .attributeName tag found read, c :: rest =>
      if c = '>' then .tag tag (found ++ bare read) :: pieces .text rest
      else if c = '"' then pieces (.attributeValue tag found (String.ofList read) []) rest
      else if c = ' ' then pieces (.attributeName tag (found ++ bare read) []) rest
      else if c = '=' then pieces (.attributeName tag found read) rest
      else pieces (.attributeName tag found (read ++ [c])) rest
  | .attributeValue tag found name read, c :: rest =>
      if c = '"' then
        pieces (.attributeName tag (found ++ [(name, String.ofList read)]) []) rest
      else pieces (.attributeValue tag found name (read ++ [c])) rest

/-- A tag as it stands between its brackets, with the attributes it has but without their values. -/
def Piece.tag? : Piece → Option String
  | .char _ => none
  | .tag name attributes =>
      some (name ++ String.join ((attributes.map Prod.fst).map fun named => " " ++ named ++ "=\"\""))

/-- The tags of a text. -/
def tagsOf (text : String) : List String :=
  (pieces .text text.toList).filterMap Piece.tag?

/-- An attribute as a reader finds it: its name, and its value as it is written. -/
def writtenAttribute : Attribute × String → String × String
  | (name, value) => (name.name, escape value)

/-- The parts of a token as it is written. -/
def Token.pieces : Token → List Piece
  | .start tag attributes => [.tag tag.name (attributes.map writtenAttribute)]
  | .finish tag => [.tag ("/" ++ tag.name) []]
  | .text value => (escape value).toList.map .char
  | .stylesheet => Style.sheet.toList.map .char

theorem pieces_text {text : List Char} (plain : '<' ∉ text) (rest : List Char)
    : pieces .text (text ++ rest) = text.map .char ++ pieces .text rest := by
  induction text with
  | nil => rfl
  | cons c text ih =>
      obtain ⟨other, plain⟩ := not_or.mp (mt List.mem_cons.mpr plain)
      rw [List.cons_append, pieces, if_neg (Ne.symm other), ih plain, List.map_cons,
        List.cons_append]

theorem pieces_tagName {text : List Char} (plain : '>' ∉ text ∧ ' ' ∉ text)
    (read rest : List Char)
    : pieces (.tagName read) (text ++ rest) = pieces (.tagName (read ++ text)) rest := by
  induction text generalizing read with
  | nil => rw [List.append_nil, List.nil_append]
  | cons c text ih =>
      obtain ⟨notEnd, unended⟩ := not_or.mp (mt List.mem_cons.mpr plain.1)
      obtain ⟨notBlank, unbroken⟩ := not_or.mp (mt List.mem_cons.mpr plain.2)
      rw [List.cons_append, pieces, if_neg (Ne.symm notEnd), if_neg (Ne.symm notBlank),
        ih ⟨unended, unbroken⟩, List.append_assoc, List.singleton_append]

theorem pieces_attributeName {text : List Char} (plain : ∀ c ∈ text, c ∉ ['>', '"', ' ', '='])
    (tag : String) (found : List (String × String)) (read rest : List Char)
    : pieces (.attributeName tag found read) (text ++ rest)
      = pieces (.attributeName tag found (read ++ text)) rest := by
  induction text generalizing read with
  | nil => rw [List.append_nil, List.nil_append]
  | cons c text ih =>
      obtain ⟨first, plain⟩ := List.forall_mem_cons.mp plain
      simp only [List.mem_cons, List.not_mem_nil, or_false, not_or] at first
      obtain ⟨notEnd, notQuote, between⟩ := first
      rw [List.cons_append, pieces, if_neg notEnd, if_neg notQuote, if_neg between.1,
        if_neg between.2, ih plain, List.append_assoc, List.singleton_append]

theorem pieces_attributeValue {text : List Char} (plain : '"' ∉ text) (tag : String)
    (found : List (String × String)) (name : String) (read rest : List Char)
    : pieces (.attributeValue tag found name read) (text ++ '"' :: rest)
      = pieces (.attributeName tag (found ++ [(name, String.ofList (read ++ text))]) []) rest := by
  induction text generalizing read with
  | nil => rw [List.append_nil, List.nil_append, pieces, if_pos rfl]
  | cons c text ih =>
      obtain ⟨other, plain⟩ := not_or.mp (mt List.mem_cons.mpr plain)
      rw [List.cons_append, pieces, if_neg (Ne.symm other), ih plain, List.append_assoc,
        List.singleton_append]

/-- Of an attribute, its name and its escaped value are read. -/
theorem pieces_attribute (name : Attribute) (value tag : String) (found : List (String × String))
    (rest : List Char)
    : pieces (.attributeName tag found []) ((attributeText (name, value)).toList ++ rest)
      = pieces (.attributeName tag (found ++ [writtenAttribute (name, value)]) []) rest := by
  have plain : ∀ c ∈ name.name.toList, c ∉ ['>', '"', ' ', '='] := by
    cases name <;> exact not_mem_of_all (by decide)
  have unquoted : '"' ∉ (escape value).toList := fun member => escape_clean member (by decide)
  have text
      : (attributeText (name, value)).toList ++ rest
        = ' ' :: (name.name.toList ++ '=' :: '"' :: ((escape value).toList ++ '"' :: rest)) := by
    simp [attributeText]
  rw [text, pieces, if_neg (by decide), if_neg (by decide), if_pos rfl, bare, if_pos rfl,
    List.append_nil, pieces_attributeName plain, pieces, if_neg (by decide), if_neg (by decide),
    if_neg (by decide), if_pos rfl, pieces, if_neg (by decide), if_pos rfl,
    pieces_attributeValue unquoted, List.nil_append, List.nil_append, String.ofList_toList,
    String.ofList_toList, writtenAttribute]

theorem pieces_attributes (attributes : List (Attribute × String)) (tag : String)
    (found : List (String × String)) (rest : List Char)
    : pieces (.attributeName tag found [])
        ((String.join (attributes.map attributeText)).toList ++ '>' :: rest)
      = .tag tag (found ++ attributes.map writtenAttribute) :: pieces .text rest := by
  induction attributes generalizing found with
  | nil => simp [pieces, bare]
  | cons first more ih =>
      rcases first with ⟨name, value⟩
      rw [List.map_cons, String.join_cons, String.toList_append, List.append_assoc,
        pieces_attribute, ih, List.map_cons, List.append_assoc, List.singleton_append]

/-- After the name of a tag come its attributes, if it has any: either way they are read. -/
theorem pieces_tag (tag : Tag) (attributes : List (Attribute × String)) (rest : List Char)
    : pieces (.tagName tag.name.toList)
        ((String.join (attributes.map attributeText)).toList ++ '>' :: rest)
      = .tag tag.name (attributes.map writtenAttribute) :: pieces .text rest := by
  cases attributes with
  | nil => simp [pieces]
  | cons first more =>
      have each := pieces_attributes (first :: more) tag.name [] rest
      rw [List.nil_append] at each
      have text
          : (String.join ((first :: more).map attributeText)).toList ++ '>' :: rest
            = ' ' :: ((first.1.name ++ "=\"" ++ escape first.2 ++ "\""
                ++ String.join (more.map attributeText)).toList ++ '>' :: rest) := by
        simp [attributeText]
      rw [text, pieces, if_neg (by decide), if_neg (by decide), if_pos rfl, bare, if_pos rfl,
        List.append_nil] at each
      rw [text, pieces, if_neg (by decide), if_pos rfl, String.ofList_toList, each]

/-- What is written for a token is read as its parts, cases on the token. -/
theorem pieces_token (token : Token) (rest : List Char)
    : pieces .text (token.write.toList ++ rest) = token.pieces ++ pieces .text rest := by
  cases token with
  | start tag attributes =>
      have plain : '>' ∉ tag.name.toList ∧ ' ' ∉ tag.name.toList := by cases tag <;> decide
      have text
          : (Token.start tag attributes).write.toList ++ rest
            = '<' :: (tag.name.toList
                ++ ((String.join (attributes.map attributeText)).toList ++ '>' :: rest)) := by
        simp [Token.write]
      rw [text, pieces, if_pos rfl, pieces_tagName plain, List.nil_append, pieces_tag]
      rfl
  | finish tag =>
      have plain : '>' ∉ ("/" ++ tag.name).toList ∧ ' ' ∉ ("/" ++ tag.name).toList := by
        cases tag <;> decide
      have text
          : (Token.finish tag).write.toList ++ rest
            = '<' :: (("/" ++ tag.name).toList ++ '>' :: rest) := by
        simp [Token.write]
      rw [text, pieces, if_pos rfl, pieces_tagName plain, pieces, if_pos rfl, List.nil_append,
        String.ofList_toList]
      rfl
  | text value => exact pieces_text (fun member => escape_clean member (by decide)) rest
  | stylesheet => exact pieces_text (fun member => sheet_clean _ member (by decide)) rest

/-- The parts of written tokens are those of the tokens, by induction over them. -/
theorem pieces_write (tokens : List Token)
    : pieces .text (write tokens).toList = tokens.flatMap Token.pieces := by
  induction tokens with
  | nil => rfl
  | cons token rest ih =>
      rw [write_cons, String.toList_append, pieces_token, ih, List.flatMap_cons]

/-- Of a token, its tag is read, if it has one. -/
theorem Token.pieces_tag? (token : Token)
    : token.pieces.filterMap Piece.tag? = token.tag?.toList := by
  have chars (text : List Char) : (text.map Piece.char).filterMap Piece.tag? = [] := by
    rw [List.filterMap_map, List.filterMap_eq_nil_iff]
    exact fun _ _ => rfl
  cases token with
  | start tag attributes =>
      simp only [Token.pieces, Token.tag?, Piece.tag?, List.filterMap_cons, List.filterMap_nil,
        List.map_map, Option.toList_some]
      rfl
  | finish tag => simp [Token.pieces, Token.tag?, Piece.tag?]
  | text value => exact chars _
  | stylesheet => exact chars _

/-- The tags of the text of tokens are those of the tokens. -/
theorem tagsOf_write (tokens : List Token)
    : tagsOf (write tokens) = tokens.filterMap Token.tag? := by
  rw [tagsOf, pieces_write, List.filterMap_flatMap, List.filterMap_eq_flatMap_toList]
  exact List.flatMap_congr fun token _ => token.pieces_tag?

-----------------------------------------------------------------------------------------
-- Nested tags
-----------------------------------------------------------------------------------------

/-- The name of a tag: what stands before its attributes. -/
def tagName (tag : String) : String :=
  String.ofList (tag.toList.takeWhile (· ≠ ' '))

/-- The names are those of tags in order: the void ones stand alone, and any other is closed after
the tags between, which are in order themselves.
-/
inductive Nested : List String → Prop
  | nil : Nested []
  | void {tag : Tag} {rest : List String} (alone : tag.isVoid = true) (more : Nested rest)
    : Nested (tag.name :: rest)
  | element {tag : Tag} {inside rest : List String} (closed : tag.isVoid = false)
    (within : Nested inside) (more : Nested rest)
    : Nested (tag.name :: (inside ++ ("/" ++ tag.name) :: rest))

/-- The name of a tag ends where its first attribute starts, by cases on the attributes. -/
theorem tagName_start (tag : Tag) (attributes : List (Attribute × String))
    : (Token.start tag attributes).tag?.map tagName = some tag.name := by
  have named : ∀ c ∈ tag.name.toList, decide (c ≠ ' ') = true := by
    intro c member
    exact decide_eq_true fun blank => tag.name_clean c member (by simp [blank])
  simp only [Token.tag?, Option.map_some, tagName, String.toList_append,
    List.takeWhile_append_of_pos named]
  cases attributes with
  | nil => simp
  | cons first more => simp

theorem tagName_finish (tag : Tag)
    : (Token.finish tag).tag?.map tagName = some ("/" ++ tag.name) := by
  cases tag <;> decide

/-- The tags of markup are nested, by induction over it. -/
theorem Markup.nested {tokens : List Token} (markup : Markup tokens)
    : Nested ((tokens.filterMap Token.tag?).map tagName) := by
  rw [List.map_filterMap]
  induction markup with
  | nil => exact .nil
  | text value _ ih => exact ih
  | stylesheet _ ih => exact ih
  | void alone _ _ ih =>
      simp only [List.filterMap_cons, tagName_start]
      exact .void alone ih
  | element closed _ _ _ inner later =>
      simp only [List.filterMap_cons, List.filterMap_append, tagName_start, tagName_finish]
      exact .element closed inner later

end MessageCard.Html

namespace MessageCard

/-- The strings of a tree cannot alter its markup: in the text, every `<` starts a tag of the
renderer, with sealed values, and every `&` an entity; the tags are nested and closed; and they are
the same, with the same attributes, for any tree that differs in its strings only.
-/
theorem Node.html_sealed (node : Node)
    : Html.Starts '<' Html.IsTag node.html.toList
      ∧ Html.Starts '&' (· ∈ Html.entities) node.html.toList
      ∧ Html.Nested ((Html.tagsOf node.html).map Html.tagName)
      ∧ ∀ other : Node,
          node.skeleton = other.skeleton → Html.tagsOf node.html = Html.tagsOf other.html := by
  have markup := Html.ofNode_markup node
  refine ⟨markup.starts_tag, Html.write_starts_entity _, ?nested, ?same⟩
  case nested =>
    rw [Node.html, Html.tagsOf_write]
    exact markup.nested
  case same =>
    intro other same
    rw [Node.html, Html.tagsOf_write, Node.html, Html.tagsOf_write, ← Html.ofNode_skeleton node,
      ← Html.ofNode_skeleton other, same]

/-- A tree with a link, an image and a text in the strings of which markup is written. -/
def Node.hostile : Node :=
  (Node.new .root ["x\"><script>"]).withChildren
    [(Node.new .header ["a"]).withText "</div><img src=x>",
      ((Node.new .img ["b"]).withLocator "\" onerror=\"f()").withAttrs
        { customWidth := some (.ofNat 580), alt := some "&lt;'" },
      (Node.new .embeddedText []).withAttrs
        { inlines := [.link "\"><b>" [.text "&<", .hardBreak, .code "</a>"]] }]

/-- A tree of the same structure, with harmless strings and another width. -/
def Node.harmless : Node :=
  (Node.new .root []).withChildren
    [(Node.new .header []).withText "Title",
      ((Node.new .img []).withLocator "k").withAttrs { customWidth := some (.ofNat 278) },
      (Node.new .embeddedText []).withAttrs
        { inlines := [.link "page" [.text "text", .hardBreak, .code "code"]] }]

/-- Both trees are rendered to the same tags. -/
theorem Node.hostile_sealed
    : hostile.skeleton = harmless.skeleton
      ∧ Html.tagsOf hostile.html = Html.tagsOf harmless.html :=
  ⟨rfl, (html_sealed hostile).2.2.2 harmless rfl⟩

end MessageCard
