import TableScript.Text.Control
import TableScript.Text.Numeral

/-!
# String literals

Texts as single-quoted string literals of a script, and how the script's language reads them.  A literal holds no
control character, so it never leaves its line.
-/

namespace TableScript.Literal

/-- A character inside a literal. -/
def escapeChar (c : Char) : List Char :=
  if c = '\\' then ['\\', '\\']
  else if c = '\'' then ['\\', '\'']
  else if c = '\n' then ['\\', 'n']
  else if c = '\r' then ['\\', 'r']
  else if c = '\t' then ['\\', 't']
  else if Text.isControl c then '\\' :: 'x' :: Text.hexByte c.toNat
  else [c]

def chars (text : List Char) : List Char :=
  '\'' :: (text.flatMap escapeChar ++ ['\''])

/-- The literal of a text. -/
def write (text : String) : String :=
  String.ofList (chars text.toList)

/-- Reads the characters of a literal up to its closing quote. -/
def readBody : List Char → Option (List Char × List Char)
  | [] => none
  | '\'' :: rest => some ([], rest)
  | '\\' :: 'x' :: a :: b :: rest =>
    match Text.hexValue? a, Text.hexValue? b, readBody rest with
    | some a, some b, some (value, rest) => some (Char.ofNat (16 * a + b) :: value, rest)
    | _, _, _ => none
  | '\\' :: c :: rest =>
    let value? := match c with
      | '\\' => some '\\'
      | '\'' => some '\''
      | 'n' => some '\n'
      | 'r' => some '\r'
      | 't' => some '\t'
      | _ => none
    match value?, readBody rest with
    | some c, some (value, rest) => some (c :: value, rest)
    | _, _ => none
  | c :: rest => match readBody rest with
    | some (value, rest) => some (c :: value, rest)
    | none => none

/-- Reads a literal from the front of a text: its value, and what follows it. -/
def read : List Char → Option (List Char × List Char)
  | '\'' :: rest => readBody rest
  | _ => none

end TableScript.Literal
