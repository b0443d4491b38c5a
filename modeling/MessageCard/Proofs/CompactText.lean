import MessageCard.Json.Writer

/-! The text of a value as a list of characters.  Put together from lists it is evaluated without
decoding the bytes of the whole text, so that what a reader makes of it can be computed.
-/

namespace MessageCard.Json

/-- The characters of a JSON string. -/
def quoteChars (text : String) : List Char :=
  '"' :: text.toList.flatMap escapedChar ++ ['"']

mutual

/-- The characters of a value without blanks. -/
def compactChars : Json → List Char
  | null => ['n', 'u', 'l', 'l']
  | bool value => if value then ['t', 'r', 'u', 'e'] else ['f', 'a', 'l', 's', 'e']
  | number value => value.text.toList
  | string value => quoteChars value
  | array items => '[' :: (List.intercalate [','] (itemsChars items) ++ [']'])
  | object fields => '\x7b' :: (List.intercalate [','] (fieldsChars fields) ++ ['\x7d'])

/-- The characters of each item. -/
def itemsChars : List Json → List (List Char)
  | [] => []
  | item :: rest => compactChars item :: itemsChars rest

/-- The characters of each field: its name, a colon and its value. -/
def fieldsChars : List (String × Json) → List (List Char)
  | [] => []
  | (name, value) :: rest =>
      (quoteChars name ++ ':' :: compactChars value) :: fieldsChars rest

end

theorem quote_toList (text : String) : (quote text).toList = quoteChars text := by
  rw [quote, String.toList_ofList, quoteChars]

/-- Joined texts have the characters of the texts between commas, by list induction. -/
theorem joinWith_toList (texts : List String)
    : (joinWith "," texts).toList = List.intercalate [','] (texts.map String.toList) := by
  induction texts with
  | nil => rfl
  | cons first rest ih =>
      cases rest with
      | nil => simp [joinWith]
      | cons second more =>
          simp only [joinWith, String.toList_append, ih, List.map_cons]
          simp [List.intercalate]

mutual

theorem compact_toList (value : Json) : value.compact.toList = value.compactChars := by
  cases value with
  | null => rfl
  | bool value => cases value <;> rfl
  | number value => rfl
  | string value => exact quote_toList value
  | array items =>
      simp only [compact, compactChars, String.toList_append, joinWith_toList,
        compactItems_toList items]
      rfl
  | object fields =>
      simp only [compact, compactChars, String.toList_append, joinWith_toList,
        compactFields_toList fields]
      rfl
termination_by sizeOf value

theorem compactItems_toList (items : List Json)
    : (compactItems items).map String.toList = itemsChars items := by
  cases items with
  | nil => rfl
  | cons item rest =>
      simp only [compactItems, itemsChars, List.map_cons, compact_toList item,
        compactItems_toList rest]
termination_by sizeOf items

theorem compactFields_toList (fields : List (String × Json))
    : (compactFields fields).map String.toList = fieldsChars fields := by
  match fields with
  | [] => rfl
  | (name, value) :: rest =>
      simp only [compactFields, fieldsChars, List.map_cons, String.toList_append, quote_toList,
        compact_toList value, compactFields_toList rest]
      simp
termination_by sizeOf fields

end

end MessageCard.Json
