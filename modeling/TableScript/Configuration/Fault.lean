import TableScript.Configuration.Setting
import TableScript.FileStore
import TableScript.Json.Fault
import TableScript.Log.Directive

/-!
# Faults of configurations

What can be wrong with configuration sources and with the settings that they make, and the words for each.
-/

namespace TableScript

inductive ConfigurationFault where
  | fileMissing (path : String)
  | unknownFileFormat (path : String)
  | unreadable (problem : FileProblem)
  | invalidToml (source : String)
  | invalidJson (fault : Json.SyntaxFault) (source : String)
  /-- The text of a file in another format cannot be read. -/
  | invalidText (problem source : String)
  /-- A file holds something other than a table. -/
  | notTable (found : Scalar) (source : String)
  | listNotTable (source : String)
  /-- A whole section, or the map of modules, is not what it has to be. -/
  | wrongShape (found : Shape) (expected : String)
  /-- A single setting is not what it has to be. -/
  | wrongType (found : Shape) (expected key : String) (source : Option String)
  | unknownPolicy (policy name : String)
  | notPolicy (policy : String)
  | unknownLogFormat (text : String)
  | unknownLogOutput (text : String)
  | invalidDirective (fault : Log.DirectiveFault)
  /-- A directive in the environment is wrong. -/
  | invalidVariableDirective (fault : Log.DirectiveFault)
  deriving DecidableEq, Repr

namespace ConfigurationFault

/-- What a file holds in place of a table. -/
def rootWords : Scalar → String
  | .integer value => "64-bit integer `" ++ toString value ++ "`"
  | .float value => "floating point `" ++ value.text .positional ++ "`"
  | other => (Shape.scalar other).words

/-- The words for the source of a setting that end a message. -/
def inSource (source : String) : String :=
  " in " ++ source

def message : ConfigurationFault → String
  | fileMissing path => "configuration file \"" ++ path ++ "\" not found"
  | unknownFileFormat path => "configuration file \"" ++ path ++ "\" is not of a registered file format"
  | unreadable problem => problem.message
  | invalidToml source => "TOML parse error" ++ inSource source
  | invalidJson fault source => fault.message ++ inSource source
  | invalidText problem source => problem ++ inSource source
  | notTable found source =>
    "invalid type: " ++ rootWords found ++ ", expected a map" ++ inSource source ++ inSource source
  | listNotTable source => "invalid type: sequence, expected a map" ++ inSource source ++ inSource source
  | wrongShape found expected => "invalid type: " ++ found.words ++ ", expected " ++ expected
  | wrongType found expected key source =>
    "invalid type: " ++ found.words ++ ", expected " ++ expected ++ " for key `" ++ key ++ "`" ++
      (source.map inSource).getD ""
  | unknownPolicy policy name => "enum " ++ policy ++ " does not have variant constructor " ++ name
  | notPolicy policy =>
    "value of enum " ++ policy ++ " should be represented by either string or table with exactly one key"
  | unknownLogFormat text => "Invalid log format: " ++ text ++ " (must be 'json' or 'text')"
  | unknownLogOutput text =>
    "Invalid log output: " ++ text ++ " (must be 'stdout', 'stderr', 'file', or 'file+stderr')"
  | invalidDirective fault => "Invalid log directive: " ++ fault.message
  | invalidVariableDirective fault => "Invalid log directive from env: " ++ fault.message

end ConfigurationFault

end TableScript
