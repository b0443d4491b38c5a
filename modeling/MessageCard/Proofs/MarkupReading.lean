import MessageCard.Proofs.MarkupText
import MessageCard.Proofs.OutlineLines

/-! What a reader of rendered markup sees.  In the characters and tags of the text it passes over the
style element, breaks the line at each line break, and reads character references back.  It sees the
strings that the tree shows, each as it is, and the images with their locators.
-/

namespace MessageCard.Html

-----------------------------------------------------------------------------------------
-- What is seen
-----------------------------------------------------------------------------------------

/-- The character that a reference refers to: one that markup names, or any by its number. -/
def reference? (name : List Char) : Option Char :=
  match name with
  | '#' :: digits =>
      if digits ≠ [] ∧ digits.all Char.isDigit then some (Char.ofNat (readDigits 0 digits))
      else none
  | _ =>
      [("amp".toList, '&'), ("lt".toList, '<'), ("gt".toList, '>'), ("quot".toList, '"')].lookup
        name

/-- Reads the character references of a text, inside one of which some may have been read. -/
def decode : Option (List Char) → List Char → List Char
  | none, [] => []
  | none, c :: rest => if c = '&' then decode (some []) rest else c :: decode none rest
  | some read, [] => '&' :: read
  | some read, c :: rest =>
      if c = ';' then
        match reference? read with
        | some referred => referred :: decode none rest
        | none => '&' :: read ++ c :: decode none rest
      else if c = '&' then '&' :: read ++ decode (some []) rest
      else decode (some (read ++ [c])) rest

/-- The text that parts show, before references are read: nothing inside a style element, and a line
break for its tag.
-/
def shown : Bool → List Piece → List Char
  | _, [] => []
  | false, .char c :: rest => c :: shown false rest
  | false, .tag name _ :: rest =>
      if name = "style" then shown true rest
      else if name = "br" then '\n' :: shown false rest
      else shown false rest
  | true, .char _ :: rest => shown true rest
  | true, .tag name _ :: rest => if name = "/style" then shown false rest else shown true rest

/-- A text with its references read. -/
def decoded (text : String) : String :=
  String.ofList (decode none text.toList)

/-- The source and the alternative text of an image. -/
abbrev Picture : Type :=
  Option String × Option String

/-- The picture of a tag, if it is the tag of an image. -/
def Piece.picture? : Piece → Option Picture
  | .char _ => none
  | .tag name attributes =>
      if name = "img" then
        some ((attributes.lookup "src").map decoded, (attributes.lookup "alt").map decoded)
      else none

/-- The text that markup shows. -/
def shownText (markup : String) : String :=
  String.ofList (decode none (shown false (pieces .text markup.toList)))

/-- The pictures that markup shows. -/
def shownPictures (markup : String) : List Picture :=
  (pieces .text markup.toList).filterMap Piece.picture?

-----------------------------------------------------------------------------------------
-- Character references
-----------------------------------------------------------------------------------------

/-- What is written for a character is read as that character, cases on whether it is escaped. -/
theorem decode_escapedChar (c : Char) (rest : List Char)
    : decode none (escapedChar c ++ rest) = c :: decode none rest := by
  by_cases mark : c ∈ marks
  · simp only [marks, List.mem_cons, List.not_mem_nil, or_false] at mark
    rcases mark with rfl | rfl | rfl | rfl | rfl <;> rfl
  · simp only [marks, List.mem_cons, List.not_mem_nil, or_false, not_or] at mark
    have plain : escapedChar c = [c] := by simp only [escapedChar, mark, if_false]
    rw [plain, List.singleton_append, decode, if_neg mark.1]

theorem decode_escape (text : String) (rest : List Char)
    : decode none ((escape text).toList ++ rest) = text.toList ++ decode none rest := by
  rw [escape, String.toList_ofList]
  induction text.toList with
  | nil => rfl
  | cons c letters ih =>
      rw [List.flatMap_cons, List.append_assoc, decode_escapedChar, ih, List.cons_append]

theorem decoded_escape (text : String) : decoded (escape text) = text := by
  have whole := decode_escape text []
  rw [List.append_nil, decode, List.append_nil] at whole
  rw [decoded, whole, String.ofList_toList]

-----------------------------------------------------------------------------------------
-- What tokens show
-----------------------------------------------------------------------------------------

/-- The tokens show the text and the pictures, in order and whatever follows them. -/
structure Shows (tokens : List Token) (text : List Char) (pictures : List Picture) : Prop where
  text
    : ∀ more,
        decode none (shown false (tokens.flatMap Token.pieces ++ more))
          = text ++ decode none (shown false more)
  pictures : (tokens.flatMap Token.pieces).filterMap Piece.picture? = pictures

theorem Shows.nil : Shows [] [] [] :=
  ⟨fun _ => rfl, rfl⟩

/-- What is shown by tokens is shown by them in order. -/
theorem Shows.append {tokens others : List Token} {text more : List Char}
    {pictures further : List Picture} (first : Shows tokens text pictures)
    (second : Shows others more further)
    : Shows (tokens ++ others) (text ++ more) (pictures ++ further) where
  text rest := by
    rw [List.flatMap_append, List.append_assoc, first.text, second.text, List.append_assoc]
  pictures := by
    rw [List.flatMap_append, List.filterMap_append, first.pictures, second.pictures]

theorem shown_chars (text : List Char) (more : List Piece)
    : shown false (text.map .char ++ more) = text ++ shown false more := by
  induction text with
  | nil => rfl
  | cons c text ih => rw [List.map_cons, List.cons_append, shown, ih, List.cons_append]

theorem shown_hidden (text : List Char) (more : List Piece)
    : shown true (text.map .char ++ more) = shown true more := by
  induction text with
  | nil => rfl
  | cons c text ih => rw [List.map_cons, List.cons_append, shown, ih]

/-- The characters of a text are no pictures. -/
theorem pictures_chars (text : List Char)
    : (text.map Piece.char).filterMap Piece.picture? = [] := by
  rw [List.filterMap_map, List.filterMap_eq_nil_iff]
  exact fun _ _ => rfl

/-- A text shows itself: what is written for it is read as it was. -/
theorem Shows.ofText (value : String) : Shows [.text value] value.toList [] where
  text more := by
    rw [List.flatMap_singleton, Token.pieces, shown_chars, decode_escape]
  pictures := by
    rw [List.flatMap_singleton, Token.pieces, pictures_chars]

/-- The style element shows nothing. -/
theorem Shows.stylesheet : Shows [.start .style [], .stylesheet, .finish .style] [] [] := by
  have sheet : Token.stylesheet.pieces = Style.sheet.toList.map .char := rfl
  -- the letters of the stylesheet are of no account, and they are many
  generalize Style.sheet.toList = letters at sheet
  have parts
      : [Token.start .style [], .stylesheet, .finish .style].flatMap Token.pieces
        = .tag "style" [] :: (letters.map .char ++ [.tag "/style" []]) := by
    rw [List.flatMap_cons, List.flatMap_cons, List.flatMap_singleton, sheet]
    rfl
  refine ⟨fun more => ?text, ?pictures⟩
  case text =>
    rw [parts, List.cons_append, List.append_assoc, shown, if_pos rfl, shown_hidden]
    rfl
  case pictures =>
    rw [parts, List.filterMap_cons, List.filterMap_append, pictures_chars]
    rfl

/-- A line break shows a newline. -/
theorem Shows.lineBreak : Shows [.start .br []] ['\n'] [] where
  text _ := rfl
  pictures := rfl

/-- The tags that show nothing by themselves. -/
def Tag.isSilent : Tag → Bool
  | .style => false
  | .img => false
  | .br => false
  | _ => true

/-- A silent tag shows nothing. -/
theorem Shows.start {tag : Tag} (silent : tag.isSilent = true)
    (attributes : List (Attribute × String))
    : Shows [.start tag attributes] [] [] := by
  cases tag with
  | style => cases silent
  | img => cases silent
  | br => cases silent
  | _ => exact ⟨fun _ => rfl, rfl⟩

theorem Shows.finish {tag : Tag} (silent : tag.isSilent = true) : Shows [.finish tag] [] [] := by
  cases tag with
  | style => cases silent
  | img => cases silent
  | br => cases silent
  | _ => exact ⟨fun _ => rfl, rfl⟩

/-- An element shows what is inside it. -/
theorem Shows.element {tag : Tag} {inside : List Token} {text : List Char}
    {pictures : List Picture} (silent : tag.isSilent = true)
    (attributes : List (Attribute × String)) (within : Shows inside text pictures)
    : Shows (.start tag attributes :: inside ++ [.finish tag]) text pictures := by
  have whole := ((start silent attributes).append within).append (finish silent)
  rwa [List.nil_append, List.nil_append, List.append_nil, List.append_nil] at whole

/-- Nothing more is shown when nothing follows. -/
theorem Shows.alone {tokens : List Token} {text : List Char} {pictures : List Picture}
    (shows : Shows tokens text pictures)
    : Shows tokens (text ++ []) pictures := by
  rwa [List.append_nil]

/-- An image shows no text, and its picture. -/
theorem Shows.image (classes : List String) (content : Content Node) (attrs : Attrs)
    : Shows [.start .img (imageAttributes classes content attrs)] []
        [(some (locatorOf content), some (attrs.alt.getD ""))] where
  text _ := rfl
  pictures := by
    have written : ∃ more,
        (imageAttributes classes content attrs).map writtenAttribute
          = [("class", escape (classValue classes).2), ("src", escape (locatorOf content)),
              ("alt", escape (attrs.alt.getD ""))] ++ more :=
      ⟨_, List.map_append⟩
    obtain ⟨more, written⟩ := written
    rw [List.flatMap_singleton, Token.pieces, written]
    show [(some (decoded (escape (locatorOf content))), some (decoded (escape (attrs.alt.getD ""))))]
      = _
    rw [decoded_escape, decoded_escape]

-----------------------------------------------------------------------------------------
-- Runs and trees
-----------------------------------------------------------------------------------------

mutual

/-- A run shows its plain text, by induction over it. -/
theorem Shows.ofRun (run : Run) : Shows (ofRun run) run.plain.toList [] := by
  cases run with
  | text value => exact .ofText value
  | code value => exact .element rfl [] (.ofText value)
  | strong content => exact .element rfl [] (ofRuns content)
  | emphasis content => exact .element rfl [] (ofRuns content)
  | strikethrough content => exact .element rfl [] (ofRuns content)
  | link href content => exact .element rfl [(.href, href)] (ofRuns content)
  | softBreak => exact .ofText " "
  | hardBreak => exact .lineBreak

theorem Shows.ofRuns (runs : List Run) : Shows (ofRuns runs) (Run.plainAll runs).toList [] := by
  cases runs with
  | nil => exact .nil
  | cons run rest =>
      rw [Html.ofRuns, Run.plainAll, String.toList_append]
      exact (ofRun run).append (ofRuns rest)

end

/-- What tokens show is read from their text. -/
theorem Shows.shownText {tokens : List Token} {text : List Char} {pictures : List Picture}
    (shows : Shows tokens text pictures)
    : Html.shownText (write tokens) = String.ofList text := by
  have whole := shows.text []
  rw [List.append_nil] at whole
  rw [Html.shownText, pieces_write, whole]
  simp [shown, decode]

theorem Shows.shownPictures {tokens : List Token} {text : List Char} {pictures : List Picture}
    (shows : Shows tokens text pictures)
    : Html.shownPictures (write tokens) = pictures := by
  rw [Html.shownPictures, pieces_write, shows.pictures]

end MessageCard.Html

namespace MessageCard

namespace Node

/-- The text that a node shows by itself: a header and a div their text, a text of a note the plain
text of its runs, or its text when it has none.
-/
def ownText (node : Node) : String :=
  match node.kind with
  | .header => node.text.getD ""
  | .div => node.text.getD ""
  | .embeddedText =>
      if node.attrs.inlines.isEmpty then node.text.getD "" else Run.plainAll node.attrs.inlines
  | _ => ""

/-- The picture that a node shows: the locator and the alternative text of an image. -/
def picture? (node : Node) : Option Html.Picture :=
  match node.kind with
  | .img => some (node.locator, node.attrs.alt)
  | .embeddedImg => some (node.locator, node.attrs.alt)
  | _ => none

/-- The text of the nodes, in order. -/
def textOfAll (nodes : List (Nat × Node)) : List Char :=
  nodes.flatMap fun entry => entry.2.ownText.toList

/-- The pictures of the nodes, in order. -/
def picturesOfAll (nodes : List (Nat × Node)) : List Html.Picture :=
  nodes.filterMap fun entry => entry.2.picture?

open Html

/-- Nodes show what each of them shows, by induction over them. -/
theorem shows_ofNodes {nodes : List Node} {depth : Nat}
    (each
      : ∀ node ∈ nodes,
          Shows (ofNode node) (textOfAll (node.preorder depth))
            (picturesOfAll (node.preorder depth)))
    : Shows (ofNodes nodes) (textOfAll (nodes.flatMap (preorder depth)))
        (picturesOfAll (nodes.flatMap (preorder depth))) := by
  induction nodes with
  | nil => exact .nil
  | cons node rest ih =>
      obtain ⟨first, later⟩ := List.forall_mem_cons.mp each
      rw [List.flatMap_cons, textOfAll, picturesOfAll, List.flatMap_append, List.filterMap_append]
      exact first.append (ih later)

/-- A tree of shaped nodes shows what its nodes show by themselves, by induction from the leaves with
cases on the shape.
-/
theorem shows_ofNode {node : Node} (shaped : ∀ depth other, node.Lies depth other → other.Shaped)
    (depth : Nat)
    : Shows (ofNode node) (textOfAll (node.preorder depth)) (picturesOfAll (node.preorder depth)) := by
  induction node using fromChildren generalizing depth with
  | step node ih =>
      have below := shows_ofNodes fun child listed =>
        ih child listed (fun below other lies => shaped (below + 1) other (lies.of_child listed))
          (depth + 1)
      rw [preorder_eq, textOfAll, List.flatMap_cons, picturesOfAll, List.filterMap_cons]
      cases shaped 0 node .root with
      | root headed contained => exact .element rfl [classValue _] (Shows.stylesheet.append below)
      | header => exact .alone (.element rfl [classValue _] (.ofText _))
      | elementsContainer each => exact .element rfl [classValue _] below
      | div filled => exact .alone (.element rfl [classValue _] (.ofText _))
      | hr => exact .start rfl [classValue _]
      | img named bounded => exact .image _ _ _
      | note filled each => exact .element rfl [classValue _] below
      | columnSet filled each => exact .element rfl [classValue _] below
      | column each => exact .element rfl [classValue _] below
      | @embeddedText content inlines filled parsed =>
          cases inlines with
          | nil => exact .alone (.element rfl [classValue _] (.ofText _))
          | cons run rest => exact .alone (.element rfl [classValue _] (.ofRuns (run :: rest)))
      | embeddedImg named => exact .image _ _ _

end Node

/-- Markup shows exactly what its tree holds: read back, the markup of a compiled card has the text
of its header, its divs and the texts of its notes in pre-order, and its images have the locators and
the alternative texts of the image nodes in the same order; and the markup of any runs has their
plain text.
-/
theorem Document.html_shows {document : Document} {options : Options} {compilation : Compilation}
    (compiled : document.compile options = .ok compilation)
    : Html.shownText compilation.tree.html
        = String.join ((compilation.tree.preorder 0).map fun entry => entry.2.ownText)
      ∧ Html.shownPictures compilation.tree.html
        = (compilation.tree.preorder 0).filterMap (fun entry => entry.2.picture?)
      ∧ ∀ runs, Html.shownText (Html.write (Html.ofRuns runs)) = Run.plainAll runs := by
  have shows := Node.shows_ofNode (tree_wellFormed compiled).shaped 0
  refine ⟨?text, shows.shownPictures, ?runs⟩
  case text =>
    apply String.toList_inj.mp
    rw [Node.html, shows.shownText, String.toList_ofList, Node.textOfAll, String.toList_join,
      List.flatMap_map]
  case runs =>
    intro runs
    rw [(Html.Shows.ofRuns runs).shownText, String.ofList_toList]

/-- The document of a card whose strings hold markup, with a text of a note in two lines. -/
def markedCard : Document :=
  .ofFields
    [("elements", .array
      [.object
        [("tag", .string "div"),
          ("text", .object [("content", .string "&lt;b>"), ("tag", .string "plain_text")])],
        .object [("alt", .string "\"<a>\""), ("img_key", .string "k"), ("tag", .string "img")],
        .object
          [("elements", .array
            [.object [("content", .string "*b*  \n[<](u)"), ("tag", .string "lark_md")],
              .object [("alt", .string "c"), ("img_key", .string "m"), ("tag", .string "img")]]),
            ("tag", .string "note")]]),
      ("header", .object
        [("title", .object [("content", .string "Q&A"), ("tag", .string "plain_text")])])] 0

/-- The markup of the card is read back as its strings.  Witness: evaluation of the compilation. -/
theorem markedCard_shows
    : ∃ compilation,
        markedCard.compile {} = .ok compilation
        ∧ Html.shownText compilation.tree.html = "Q&A&lt;b>b\n<"
        ∧ Html.shownPictures compilation.tree.html
          = [(some (imageEndpoint ++ "k"), some "\"<a>\""),
              (some (imageEndpoint ++ "m"), some "c")] := by
  have evaluated
      : (markedCard.compile {}).toOption.map (fun compilation =>
          (String.join ((compilation.tree.preorder 0).map fun entry => entry.2.ownText),
            (compilation.tree.preorder 0).filterMap (fun entry => entry.2.picture?)))
        = some
            ("Q&A&lt;b>b\n<",
              [(some (imageEndpoint ++ "k"), some "\"<a>\""),
                (some (imageEndpoint ++ "m"), some "c")]) := by
    decide +kernel
  obtain ⟨compilation, compiled, shown⟩ := ok_of_toOption_map evaluated
  obtain ⟨texts, pictures⟩ := Prod.mk.inj shown
  obtain ⟨text, images, _⟩ := Document.html_shows compiled
  exact ⟨compilation, compiled, text.trans texts, images.trans pictures⟩

end MessageCard
