import TableScript.Configuration.Format
import TableScript.Configuration.Reading
import TableScript.Environment
import TableScript.FileStore
import TableScript.Json.Reader
import TableScript.Text.Replace
import TableScript.Toml.Marked
import TableScript.Toml.Reader

/-!
# Sources of configurations

A configuration is made from the defaults, the user's file, the files of a workspace and the environment, each laid
over those before it; or from the defaults, one given file and the environment.
-/

namespace TableScript.Configuration

/-! ## Files -/

/-- The files that a path may stand for when there is none of its own name: each has an extension of a format
added. -/
def candidates (path : String) (support : FormatSupport := {}) : List (String × FileFormat) :=
  support.order.flatMap fun format => format.extensions.map fun extension =>
    (Path.withAddedExtension path extension, format)

/-- The file that a path stands for: the file there, whose extension tells its format, or else one with the
extension of a format added. -/
def findFile (files : FileStore) (path : String) (support : FormatSupport := {}) :
    Except ConfigurationFault (String × FileFormat) :=
  let here := files.absolute path
  if files.isFile here then
    match FileFormat.ofPath? here with
    | some format => .ok (here, format)
    | none => .error (.unknownFileFormat here)
  else
    match (candidates here support).find? fun candidate => files.isFile candidate.1 with
    | some found => .ok found
    | none => .error (.fileMissing path)

/-- The members of a setting that a source consists of; only tables have any. -/
def rootMembers (source : String) : Setting → Except ConfigurationFault (List (String × Setting))
  | .table members _ => .ok members
  | .scalar found _ => .error (.notTable found source)
  | .list _ _ => .error (.listNotTable source)

/-- What the text of a file says. -/
def parseSource (format : FileFormat) (source text : String) (support : FormatSupport := {}) :
    Except ConfigurationFault (List (String × Setting)) :=
  match format with
  | .toml => match (Toml.read text).bind fun members => (Toml.table members).resolve? with
    | some value => rootMembers source (.ofToml source value)
    | none => .error (.invalidToml source)
  | .json => do
    let value ← (Json.read text).mapError fun fault => .invalidJson fault source
    rootMembers source (.ofJson source value)
  | .other format => do
    let value ← (support.read format source text).mapError fun problem => .invalidText problem source
    rootMembers source value

/-- A file that a path stands for, with its text. -/
structure Source where
  /-- What it is known by: its path from the working directory. -/
  name : String
  format : FileFormat
  text : String

/-- What a file is known by. -/
def sourceName (files : FileStore) (path : String) : String :=
  Path.relativeTo (files.absolute path) (FileStore.pathOf files.workingDirectory)

/-- Opens the file that a path stands for. -/
def openSource (files : FileStore) (path : String) (support : FormatSupport := {}) :
    Except ConfigurationFault Source := do
  let (found, format) ← findFile files path support
  let text ← (files.readText found).mapError .unreadable
  return ⟨sourceName files found, format, text⟩

/-- What a file says. -/
def Source.settings (source : Source) (support : FormatSupport := {}) :
    Except ConfigurationFault (List (String × Setting)) :=
  parseSource source.format source.name source.text support

/-- What the file says that a path stands for. -/
def readSource (files : FileStore) (path : String) (support : FormatSupport := {}) :
    Except ConfigurationFault (List (String × Setting)) := do
  (← openSource files path support).settings support

/-- What the file says that a path stands for, if it can be opened. -/
def readOptionalSource (files : FileStore) (path : String) (support : FormatSupport := {}) :
    Except ConfigurationFault (List (String × Setting)) :=
  match openSource files path support with
  | .ok source => source.settings support
  | .error _ => .ok []

/-! ## The environment -/

/-- The name of the environment as a source. -/
def environmentSource : String := "the environment"

/-- The key that a variable sets: its name after the prefix, in lower case, with points for doubled underscores. -/
def variableKey? (name : String) : Option String :=
  let start := "pipewright__".toList
  let name := (Text.lowerCase name).toList
  if start.isPrefixOf name then
    some (String.ofList (Text.replaceAll ['_', '_'] ['.'] (name.drop start.length)))
  else none

/-- What the environment says; all its values are texts. -/
def environmentSettings (environment : Environment) : List (String × Setting) :=
  environment.entries.filterMap fun (name, value) =>
    (variableKey? name).map fun key => (key, .scalar (.text value) (some environmentSource))

/-! ## Loading -/

/-- The settings before any source. -/
def defaults : Setting :=
  let generator : Settings := {}
  let members := [
    ("ragged_rows", Setting.scalar (.text generator.raggedRows.name) none),
    ("unknown_algorithm", .scalar (.text generator.unknownAlgorithm.name) none)]
  .table [("generator", .table members none)] none

/-- The configuration of some sources, each laid over those before it. -/
def ofSources (sources : List (List (String × Setting))) : Except ConfigurationFault Configuration :=
  ofSettings (sources.foldl Setting.putAll defaults).members

/-- The user's file by the path of its place, if there is one. -/
def findUserFile (environment : Environment) (files : FileStore) : Traced ConfigurationFault (List String) := do
  match environment.userFile? with
  | none => return []
  | some path =>
    if files.isPresent path then
      let path := files.realPath path
      .tell ⟨.debug, .globalFile, "Loading global configuration", [("config_path", .plain path)]⟩
      return [path]
    else
      .tell ⟨.debug, .globalFile, "No global configuration file", [("config_path", .plain path)]⟩
      return []

/-- The name of the configuration for the environment that the program runs in. -/
def profile (environment : Environment) : String :=
  (environment.get? "PIPEWRIGHT_ENV").getD "development"

/-- Those of some files that there are. -/
def presentFiles (files : FileStore) : List String → Traced ConfigurationFault (List String)
  | [] => return []
  | path :: paths => do
    if files.isPresent path then
      .tell ⟨.debug, .workspaceFiles, "Loading workspace configuration", [("config_path", .plain path)]⟩
      return path :: (← presentFiles files paths)
    else presentFiles files paths

/-- The general file of a workspace. -/
def generalFile (workspace : String) : String :=
  Path.join (Path.join workspace "config") "config.toml"

/-- The file of a workspace for the environment that the program runs in. -/
def profileFile (environment : Environment) (workspace : String) : String :=
  Path.join (Path.join workspace "config") (profile environment ++ ".toml")

/-- The files of a workspace. -/
def workspaceFiles (environment : Environment) (workspace : String) : List String :=
  [generalFile workspace, profileFile environment workspace]

/-- The configuration for a workspace. -/
def load (environment : Environment) (files : FileStore) (workspace : String) (support : FormatSupport := {}) :
    Traced ConfigurationFault Configuration := do
  let user ← findUserFile environment files
  let paths := user ++ (← presentFiles files (workspaceFiles environment workspace))
  .ofExcept do
    let sources ← paths.mapM fun path => readOptionalSource files path support
    ofSources (sources ++ [environmentSettings environment])

/-- The configuration in a file. -/
def loadFile (environment : Environment) (files : FileStore) (path : String) (support : FormatSupport := {}) :
    Except ConfigurationFault Configuration := do
  ofSources [← readSource files path support, environmentSettings environment]

end TableScript.Configuration
