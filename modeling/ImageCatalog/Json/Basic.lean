/-!
# JSON values

Values keep what the decoders of this library look at: the order and repetition of members, the
text of numbers, and whether a string is well formed. A string whose escapes name a lone
surrogate has no text; it may stand where a value is ignored and nowhere else.
-/

namespace ImageCatalog

/-- A JSON value. -/
inductive Json where
  | null
  | bool (b : Bool)
  /-- A number, as it is written. -/
  | number (literal : List Char)
  /-- A string, `none` if it holds a lone surrogate. -/
  | string (text : Option String)
  | array (items : List Json)
  | object (members : List (Option String × Json))
deriving Inhabited

namespace Json

/-- A string value. -/
def text (s : String) : Json :=
  .string (some s)

/-- A member of an object. -/
def member (key : String) (value : Json) : Option String × Json :=
  (some key, value)

/-- A member that is left out when there is no value. -/
def member? (key : String) (value : Option Json) : List (Option String × Json) :=
  (value.map (member key)).toList

/-- The string, if the value is one and well formed. -/
def asString? : Json → Option String
  | .string s => s
  | _ => none

/-- The items, if the value is an array. -/
def asArray? : Json → Option (List Json)
  | .array items => some items
  | _ => none

end Json

end ImageCatalog
