import TableScript.Binary64.Text
import TableScript.Json.Value
import TableScript.Text.Numeral

/-!
# Writing JSON

Two forms: `compact`, without any white space, and `pretty`, with one item or member a line, indented by two
spaces a level, where empty arrays and objects stay on one line.  Members keep the order that the value has.
-/

namespace TableScript.Json

/-- A character inside a string: quotes, backslashes and control characters below the space are escaped. -/
def escapeChar (c : Char) : List Char :=
  if c = '"' then ['\\', '"']
  else if c = '\\' then ['\\', '\\']
  else if c = '\x08' then ['\\', 'b']
  else if c = '\x0c' then ['\\', 'f']
  else if c = '\n' then ['\\', 'n']
  else if c = '\r' then ['\\', 'r']
  else if c = '\t' then ['\\', 't']
  else if c.toNat < 0x20 then ['\\', 'u', '0', '0'] ++ Text.hexByte c.toNat
  else [c]

def quotedChars (text : String) : List Char :=
  '"' :: (text.toList.flatMap escapeChar ++ ['"'])

def integerChars (value : Int) : List Char :=
  if value < 0 then '-' :: Text.decimalChars value.natAbs else Text.decimalChars value.natAbs

/-- The text of a value that is neither an array nor an object. -/
def leafChars : Json → List Char
  | null => ['n', 'u', 'l', 'l']
  | bool true => ['t', 'r', 'u', 'e']
  | bool false => ['f', 'a', 'l', 's', 'e']
  | integer value => integerChars value
  | float value => (value.text .mixed).toList
  | string value => quotedChars value
  | array _ => ['[', ']']
  | object _ => ['{', '}']

mutual

/-- A value without white space. -/
def compactChars : Json → List Char
  | array items => '[' :: (compactItems items ++ [']'])
  | object members => '{' :: (compactMembers members ++ ['}'])
  | leaf => leafChars leaf

def compactItems : List Json → List Char
  | [] => []
  | [item] => compactChars item
  | item :: items => compactChars item ++ ',' :: compactItems items

def compactMembers : List (String × Json) → List Char
  | [] => []
  | [(key, value)] => quotedChars key ++ ':' :: compactChars value
  | (key, value) :: members => quotedChars key ++ ':' :: (compactChars value ++ ',' :: compactMembers members)

end

/-- The start of a line at a level of nesting. -/
def newLine (level : Nat) : List Char :=
  '\n' :: List.replicate (2 * level) ' '

mutual

/-- A value over several lines; its lines after the first are at a level of nesting. -/
def prettyChars (level : Nat) : Json → List Char
  | array (item :: items) => '[' :: (prettyItems (level + 1) (item :: items) ++ newLine level ++ [']'])
  | object (member :: members) =>
    '{' :: (prettyMembers (level + 1) (member :: members) ++ newLine level ++ ['}'])
  | leaf => leafChars leaf

def prettyItems (level : Nat) : List Json → List Char
  | [] => []
  | [item] => newLine level ++ prettyChars level item
  | item :: items => newLine level ++ prettyChars level item ++ ',' :: prettyItems level items

def prettyMembers (level : Nat) : List (String × Json) → List Char
  | [] => []
  | [(key, value)] => newLine level ++ quotedChars key ++ ':' :: ' ' :: prettyChars level value
  | (key, value) :: members =>
    newLine level ++ quotedChars key ++ ':' :: ' ' :: (prettyChars level value ++ ',' ::
      prettyMembers level members)

end

def compact (value : Json) : String :=
  String.ofList (compactChars value)

def pretty (value : Json) : String :=
  String.ofList (prettyChars 0 value)

end TableScript.Json
