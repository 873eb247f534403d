import TableScript.Dict
import TableScript.Toml.Datetime
import TableScript.Toml.Value

/-!
# Marked dates and times

A table whose first key is the one that marks a date or time stands for the date or time that its value writes, and
whatever else it holds does not count.  `resolve?` puts these in the place of their tables; it also puts members in
the order of their keys.
-/

namespace TableScript.Toml

/-- Whether the members of a table mark it as a date or time. -/
def isMarked (members : List (String × Toml)) : Bool :=
  (members.head?.map Prod.fst) = some datetimeKey

/-- The date or time that the first member of a table writes. -/
def markedDatetime? : List (String × Toml) → Option Toml
  | (_, .string text) :: _ => (datetimeOfText? text).map .datetime
  | _ => none

mutual

/-- A value with the dates and times in the place of the tables that are marked as such; nothing if one of these
writes none. -/
def resolve? : Toml → Option Toml
  | .array items => (resolveItems? items).map .array
  | .table members =>
    if isMarked members then markedDatetime? members
    else (resolveMembers? members).map fun members => .table (Dict.ofList members)
  | value => some value

def resolveItems? : List Toml → Option (List Toml)
  | [] => some []
  | item :: items => do return (← resolve? item) :: (← resolveItems? items)

def resolveMembers? : List (String × Toml) → Option (List (String × Toml))
  | [] => some []
  | (key, value) :: members => do return (key, ← resolve? value) :: (← resolveMembers? members)

end

end TableScript.Toml
