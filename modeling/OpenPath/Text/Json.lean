/-
# JSON values

What a JSON parser returns. A number that is no integer is kept as the text that
Python prints for it, since nothing computes with it. An object is the list of its
members, each key once.
-/

import OpenPath.Text.Unicode

namespace OpenPath

inductive Json
  | null
  | bool (value : Bool)
  | int (value : Int)
  | real (shown : Text)
  | string (value : Text)
  | array (items : List Json)
  | object (members : List (Text × Json))

/-- The members of an object. -/
abbrev JsonObject := List (Text × Json)

namespace Json

/-- The text of a string, and an empty text for everything else. -/
def text : Option Json → Text
  | some (.string value) => value
  | _ => []

@[simp]
theorem text_string (value : Text) : text (some (.string value)) = value := rfl

@[simp]
theorem text_none : text none = [] := rfl

/-- `value === true` -/
def isTrue : Option Json → Bool
  | some (.bool value) => value
  | _ => false

/-- `value === false` -/
def isFalse : Option Json → Bool
  | some (.bool value) => !value
  | _ => false

/-- `value === expected`, for a text. -/
def isText (expected : Text) : Option Json → Bool
  | some (.string value) => value == expected
  | _ => false

end Json

end OpenPath
