import TableScript.Configuration.Setting
import TableScript.Path

/-!
# Formats of configuration files

The extension of a file tells its format.  Files in TOML and JSON are read here; how the texts of the other formats are
read is left open.
-/

namespace TableScript.Configuration

/-- The formats whose texts are not read here. -/
inductive OtherFormat where
  | yaml
  | ini
  | ron
  | json5
  deriving DecidableEq, Repr

inductive FileFormat where
  | toml
  | json
  | other (format : OtherFormat)
  deriving DecidableEq, Repr

namespace FileFormat

def all : List FileFormat := [toml, json, other .yaml, other .ini, other .ron, other .json5]

/-- The extensions that files in a format have. -/
def extensions : FileFormat → List String
  | toml => ["toml"]
  | json => ["json"]
  | other .yaml => ["yaml", "yml"]
  | other .ini => ["ini"]
  | other .ron => ["ron"]
  | other .json5 => ["json5"]

/-- The format that the extension of a path tells. -/
def ofPath? (path : String) : Option FileFormat :=
  (Path.extension? path).bind fun extension => all.find? fun format => extension ∈ format.extensions

end FileFormat

/-- What is left open about formats. -/
structure FormatSupport where
  /-- The order in which the extensions of formats are tried, which may change from run to run. -/
  order : List FileFormat := FileFormat.all
  /-- What a text in one of the other formats says, from a source of some name. -/
  read : OtherFormat → String → String → Except String Setting := fun _ _ _ => .error "unsupported format"

end TableScript.Configuration
