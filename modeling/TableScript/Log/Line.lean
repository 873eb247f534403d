import TableScript.Json.Printer
import TableScript.Log.Settings
import TableScript.Text.Escaped

/-!
# Log lines

An event as a line of text, with or without the colors of a terminal, or as a line of JSON.
-/

namespace TableScript.Log

/-- A character that a terminal takes as a command, or as the beginning of one. -/
def isTerminalCommand (c : Char) : Bool :=
  c = '\x1b' || c = '\x07' || c = '\x08' || c = '\x0c' || c = '\x7f' || (0x80 ≤ c.toNat && c.toNat ≤ 0x9F)

/-- A character of a message, with what a terminal would take as a command spelled out. -/
def messageChar (c : Char) : List Char :=
  if !isTerminalCommand c then [c]
  else if c.toNat < 0x80 then '\\' :: 'x' :: Text.hexByte c.toNat
  else ['\\', 'u', '{'] ++ Text.hexChars c.toNat ++ ['}']

def messageText (message : String) : String :=
  String.ofList (message.toList.flatMap messageChar)

/-- The value of a field in a line of text. -/
def fieldText : FieldValue → String
  | .quoted text => Text.escaped text
  | .plain text => text
  | .number n => Text.decimal n

/-- The name of a level in five characters. -/
def levelText (level : Level) : String :=
  String.ofList (List.replicate (5 - level.name.length) ' ') ++ level.name

/-- A text in a style of the terminal. -/
def styled (style : Nat) (text : String) : String :=
  "\x1b[" ++ Text.decimal style ++ "m" ++ text ++ "\x1b[0m"

def dim : Nat := 2
def italic : Nat := 3

/-- The color of a level. -/
def levelStyle : Level → Nat
  | .error => 31
  | .warn => 33
  | .info => 32
  | .debug => 34
  | .trace => 35

/-- A line of text. -/
def textLine (color : Bool) (time : String) (event : Event) : String :=
  let style (n : Nat) (text : String) : String := if color then styled n text else text
  let fields := event.fields.map fun (name, value) =>
    " " ++ style italic name ++ style dim "=" ++ fieldText value
  style dim time ++ " " ++ style (levelStyle event.level) (levelText event.level) ++ " " ++
    style dim event.source.target ++ style dim ":" ++ " " ++ messageText event.message ++
    String.join fields ++ "\n"

/-- The value of a field in a line of JSON. -/
def fieldJson : FieldValue → Json
  | .quoted text => .string text
  | .plain text => .string text
  | .number n => .natural n

/-- A line of JSON. -/
def jsonLine (time : String) (event : Event) : String :=
  let fields := event.fields.map fun (name, value) => (name, fieldJson value)
  (Json.object [
    ("timestamp", .string time),
    ("level", .string event.level.name),
    ("fields", .object (("message", .string event.message) :: fields)),
    ("target", .string event.source.target)]).compact ++ "\n"

end TableScript.Log
