import MessageCard.Number.Written

/-!
JSON values.  The fields of an object are a list of pairs; a reader keeps one field of each
name, in the order of the names.
-/

namespace MessageCard

/-- A JSON number: an integer of 64 bits, or a double. -/
inductive JsonNumber
  | integer (value : Int)
  | double (value : Double)
deriving DecidableEq, Repr

/-- The number as a double. -/
def JsonNumber.toDouble : JsonNumber → Double
  | .integer value => Double.ofRatio (decide (value < 0)) value.natAbs 1
  | .double value => value

/-- The text of a number. -/
def JsonNumber.text : JsonNumber → String
  | .integer value =>
      String.ofList ((if value < 0 then ['-'] else []) ++ Decimal.digitsOf value.natAbs)
  | .double value => value.json

/-- A JSON value. -/
inductive Json
  | null
  | bool (value : Bool)
  | number (value : JsonNumber)
  | string (value : String)
  | array (items : List Json)
  | object (fields : List (String × Json))
deriving Repr, Inhabited

/-- The fields of an object. -/
abbrev Fields := List (String × Json)

namespace Json

/-- The value of the first field of a name. -/
def field? (fields : Fields) (name : String) : Option Json :=
  fields.lookup name

/-- The text of a string. -/
def string? : Json → Option String
  | string value => some value
  | _ => none

/-- The truth value of a boolean. -/
def bool? : Json → Option Bool
  | bool value => some value
  | _ => none

/-- The items of an array. -/
def array? : Json → Option (List Json)
  | array items => some items
  | _ => none

/-- The fields of an object. -/
def object? : Json → Option Fields
  | object fields => some fields
  | _ => none

/-- Whether the value is `null`. -/
def isNull : Json → Bool
  | null => true
  | _ => false

/-- What kind of value it is, in words. -/
def kind : Json → String
  | null => "null"
  | bool _ => "a boolean"
  | number _ => "a number"
  | string _ => "a string"
  | array _ => "an array"
  | object _ => "an object"

/-- Whether a value counts as given: `null`, `false`, zero and the empty string do not. -/
def isTruthy : Json → Bool
  | null => false
  | bool value => value
  | number value => !value.toDouble.isZero
  | string value => value != ""
  | array _ => true
  | object _ => true

/-- The finite number that a number or a numeric string stands for. -/
def numeric? : Json → Option Double
  | number value => if value.toDouble.isFinite then some value.toDouble else none
  | string value => readNumeric (Text.trim value.toList)
  | _ => none

/-- A text that is not empty. -/
def nonEmptyString? (value : Json) : Option String :=
  value.string?.filter (· != "")

/-- An array that has items. -/
def nonEmptyArray? (value : Json) : Option (List Json) :=
  value.array?.filter (!·.isEmpty)

/-- The value of a field, if it counts as given. -/
def truthyField? (fields : Fields) (name : String) : Option Json :=
  (field? fields name).filter isTruthy

/-- The text of a field that is a string and not empty. -/
def stringField? (fields : Fields) (name : String) : Option String :=
  (field? fields name).bind nonEmptyString?

/-- The items of a field that is an array with items. -/
def arrayField? (fields : Fields) (name : String) : Option (List Json) :=
  (field? fields name).bind nonEmptyArray?

/-- The fields of a field that is an object. -/
def objectField? (fields : Fields) (name : String) : Option Fields :=
  (field? fields name).bind object?

/-- Puts a field among fields ordered by name, in place of one of the same name. -/
def insertField (name : String) (value : Json) : Fields → Fields
  | [] => [(name, value)]
  | (other, old) :: rest =>
      if name < other then (name, value) :: (other, old) :: rest
      else if name = other then (name, value) :: rest
      else (other, old) :: insertField name value rest

end Json

end MessageCard
