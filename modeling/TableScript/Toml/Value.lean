import TableScript.Json.Value

/-!
# TOML values

The values of a TOML document, and their forms in JSON: numbers without a JSON form become null, and a date or time
becomes an object that marks it.
-/

namespace TableScript

inductive Toml where
  | string (value : String)
  | integer (value : Int)
  | float (value : Binary64)
  | infinite (negative : Bool)
  | notNumber
  | bool (value : Bool)
  /-- A date, a time or both, as written out in full. -/
  | datetime (text : String)
  | array (items : List Toml)
  | table (members : List (String × Toml))
  deriving Inhabited

namespace Toml

/-- The key that marks a date or time in JSON. -/
def datetimeKey : String := "$__toml_private_datetime"

mutual

def toJson : Toml → Json
  | string value => .string value
  | integer value => .integer value
  | float value => .float value
  | infinite _ => .null
  | notNumber => .null
  | bool value => .bool value
  | datetime text => .object [(datetimeKey, .string text)]
  | array items => .array (itemsToJson items)
  | table members => .object (membersToJson members)

def itemsToJson : List Toml → List Json
  | [] => []
  | item :: items => item.toJson :: itemsToJson items

def membersToJson : List (String × Toml) → List (String × Json)
  | [] => []
  | (key, value) :: members => (key, value.toJson) :: membersToJson members

end

end Toml

end TableScript
