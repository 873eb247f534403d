import TableScript.Options.Form
import TableScript.ProgramError
import TableScript.Toml.Marked
import TableScript.Toml.Reader

/-!
# Option files

An option file holds the fields of a form, as a JSON object if its name ends in `.json` and as a TOML document
otherwise.  Numbers and truth values count as their texts, null as the empty text, and a nested table as its JSON
text.
-/

namespace TableScript.OptionFile

/-- Whether a file of this name holds JSON. -/
def isJson (path : String) : Bool :=
  (Path.extension? path).any fun extension => extension.toLower = "json"

/-- The value that the text of an option file describes. -/
def parse (path text : String) : Except OptionFileFault Json :=
  if isJson path then (Json.read text).mapError .invalidJson
  else match (Toml.read text).bind Toml.resolveMembers? with
    | some members => .ok (Toml.table (Dict.ofList members)).toJson
    | none => .error (.invalidToml path)

/-- The text of a field; a list has none. -/
def fieldText? : Json → Option String
  | .string text => some text
  | .bool value => some (if value then "true" else "false")
  | .integer value => some (toString value)
  | .float value => some (value.text .mixed)
  | .null => some ""
  | .object members => some (Json.object members).compact
  | .array _ => none

/-- The form of some fields. -/
def formOf (path : String) (members : List (String × Json)) : Except OptionFileFault Form :=
  members.foldlM (fun form (key, value) =>
    match fieldText? value with
    | some text => .ok (form.insert key text)
    | none => .error (.notScalar path key)) {}

/-- The form that the text of an option file describes. -/
def read (path text : String) : Except OptionFileFault Form := do
  match ← parse path text with
  | .object members => formOf path members
  | _ => .error (.notTable path)

/-- The form in a file. -/
def load (files : FileStore) (path : String) : Except ProgramError Form := do
  let text ← (files.readText path).mapError (.file path)
  (read path text).mapError .optionFile

end TableScript.OptionFile
