import TableScript.Binary64

/-!
# JSON values

Numbers are integers or floating-point numbers, as their spelling decides.
-/

namespace TableScript

inductive Json where
  | null
  | bool (value : Bool)
  | integer (value : Int)
  | float (value : Binary64)
  | string (value : String)
  | array (items : List Json)
  | object (members : List (String × Json))
  deriving Inhabited

namespace Json

/-- The array of some texts. -/
def strings (texts : List String) : Json :=
  .array (texts.map .string)

def natural (n : Nat) : Json :=
  .integer n

/-- A value, or null when there is none. -/
def ofOption {α : Type} (encode : α → Json) : Option α → Json
  | some a => encode a
  | none => .null

end Json

end TableScript
