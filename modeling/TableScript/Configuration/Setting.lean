import TableScript.Binary64.Text
import TableScript.Configuration.KeyPath
import TableScript.Dict
import TableScript.Json.Value
import TableScript.Text.Escaped
import TableScript.Text.LowerCase
import TableScript.Toml.Value

/-!
# Settings of configuration sources

What configuration sources say, as a tree whose parts know where they come from, and how a later source is laid
over an earlier one: tables are merged key by key, everything else is replaced.
-/

namespace TableScript

inductive Scalar where
  | null
  | bool (value : Bool)
  | integer (value : Int)
  | float (value : Binary64)
  | infinite (negative : Bool)
  | notNumber
  | text (value : String)
  deriving DecidableEq, Repr

/-- A setting with the source that made it, if one did.  A table merged from several has none. -/
inductive Setting where
  | scalar (value : Scalar) (source : Option String)
  | list (items : List Setting) (source : Option String)
  | table (members : List (String × Setting)) (source : Option String)
  deriving Inhabited

/-- What a setting shows itself to be. -/
inductive Shape where
  | scalar (value : Scalar)
  | list
  | table
  deriving DecidableEq, Repr

/-- The text of an infinite number. -/
def Scalar.infinityText (negative : Bool) : String :=
  if negative then "-inf" else "inf"

/-- What a shape is called in messages. -/
def Shape.words : Shape → String
  | .scalar .null => "unit value"
  | .scalar (.bool value) => "boolean `" ++ (if value then "true" else "false") ++ "`"
  | .scalar (.integer value) => "integer `" ++ toString value ++ "`"
  | .scalar (.float value) => "floating point `" ++ value.text .pointed ++ "`"
  | .scalar (.infinite negative) => "floating point `" ++ Scalar.infinityText negative ++ "`"
  | .scalar .notNumber => "floating point `NaN`"
  | .scalar (.text value) => "string " ++ Text.escaped value
  | .list => "sequence"
  | .table => "map"

namespace Setting

def shape : Setting → Shape
  | scalar value _ => .scalar value
  | list _ _ => .list
  | table _ _ => .table

/-- Where a setting comes from. -/
def source : Setting → Option String
  | scalar _ source => source
  | list _ source => source
  | table _ source => source

/-! ## Settings of documents -/

mutual

/-- A JSON value as a setting; integers beyond 63 bits count as floating-point numbers. -/
def ofJson (source : String) : Json → Setting
  | .null => scalar .null source
  | .bool value => scalar (.bool value) source
  | .integer value =>
    if value ≤ Int64.maxValue.toInt then scalar (.integer value) source
    else match Binary64.ofDecimal? false value.toNat 0 with
      | some x => scalar (.float x) source
      | none => scalar (.infinite false) source
  | .float value => scalar (.float value) source
  | .string value => scalar (.text value) source
  | .array items => list (ofJsonItems source items) source
  | .object members => table (ofJsonMembers source members) source

def ofJsonItems (source : String) : List Json → List Setting
  | [] => []
  | item :: items => ofJson source item :: ofJsonItems source items

def ofJsonMembers (source : String) : List (String × Json) → List (String × Setting)
  | [] => []
  | (key, value) :: members => (key, ofJson source value) :: ofJsonMembers source members

end

mutual

/-- A TOML value as a setting; dates and times count as texts. -/
def ofToml (source : String) : Toml → Setting
  | .string value => scalar (.text value) source
  | .integer value => scalar (.integer value) source
  | .float value => scalar (.float value) source
  | .infinite negative => scalar (.infinite negative) source
  | .notNumber => scalar .notNumber source
  | .bool value => scalar (.bool value) source
  | .datetime text => scalar (.text text) source
  | .array items => list (ofTomlItems source items) source
  | .table members => table (ofTomlMembers source members) source

def ofTomlItems (source : String) : List Toml → List Setting
  | [] => []
  | item :: items => ofToml source item :: ofTomlItems source items

def ofTomlMembers (source : String) : List (String × Toml) → List (String × Setting)
  | [] => []
  | (key, value) :: members => (key, ofToml source value) :: ofTomlMembers source members

end

/-! ## Laying settings over others -/

/-- The members of a table; anything else has none. -/
def members : Setting → List (String × Setting)
  | table members _ => members
  | _ => []

/-- Where a table comes from. -/
def tableSource : Setting → Option String
  | table _ source => source
  | _ => none

/-- The items of a list; anything else has none. -/
def items : Setting → List Setting
  | list items _ => items
  | _ => []

/-- Where a list comes from. -/
def listSource : Setting → Option String
  | list _ source => source
  | _ => none

mutual

/-- Lays a setting over one that is there already.  Keys count without their case. -/
def layOver (new : Setting) (old : Option Setting) : Setting :=
  match new with
  | scalar value source => scalar value source
  | list items source => list items source
  | table members _ =>
    if members.isEmpty then old.getD (table [] none)
    else table (overMembers members ((old.map Setting.members).getD [])) (old.bind tableSource)

/-- Lays members over those of a table. -/
def overMembers : List (String × Setting) → List (String × Setting) → List (String × Setting)
  | [], old => old
  | (key, new) :: rest, old =>
    let key := Text.lowerCase key
    overMembers rest (Dict.insert key (layOver new (Dict.get? key old)) old)

end

/-- The position that an index means among `size` items; a negative index counts from the end. -/
def itemPosition (size : Nat) (index : Int) : Nat :=
  if 0 ≤ index then index.toNat else size - index.natAbs

/-- Puts an item at a position, after as many nulls as are missing before it. -/
def putItem (new : Setting) (position : Nat) (items : List Setting) : List Setting :=
  (items ++ List.replicate (position + 1 - items.length) (scalar .null none)).set position new

/-- Lays a setting over what is at the end of a path, making tables and lists of what is in the way.  An item of a
list is replaced as it is, not merged. -/
def put (new : Setting) : List KeyStep → Option Setting → Setting
  | [], old => layOver new old
  | .member name :: path, old =>
    let members := (old.map Setting.members).getD []
    table (Dict.insert name (put new path (Dict.get? name members)) members) (old.bind tableSource)
  | .item index :: path, old =>
    let items := (old.map Setting.items).getD []
    let position := itemPosition items.length index
    let item := if path.isEmpty then new else put new path items[position]?
    list (putItem item position items) (old.bind listSource)

/-- Lays what a source says under a key over what is there. -/
def putMember (root : Setting) (key : String) (new : Setting) : Setting :=
  put new (keyPath key) (some root)

/-- Lays a source over what is there. -/
def putAll (root : Setting) (members : List (String × Setting)) : Setting :=
  members.foldl (fun root (key, new) => putMember root key new) root

end Setting

end TableScript
