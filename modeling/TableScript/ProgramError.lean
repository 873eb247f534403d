import TableScript.Configuration.Fault
import TableScript.FileStore
import TableScript.GenerationError

/-!
# Errors of the program

Why the program as a whole gives up: generation fails, the configuration is wrong, a file cannot be used, or an
option file cannot be read as options.
-/

namespace TableScript

/-- What is wrong with an option file. -/
inductive OptionFileFault where
  | invalidJson (fault : Json.SyntaxFault)
  | invalidToml (path : String)
  | notTable (path : String)
  | notScalar (path key : String)
  deriving DecidableEq, Repr

def OptionFileFault.message : OptionFileFault → String
  | .invalidJson fault => fault.message
  | .invalidToml path => path ++ ": TOML parse error"
  | .notTable path => path ++ ": expected a table of option fields"
  | .notScalar path key => path ++ ": option '" ++ key ++ "' must be a scalar"

inductive ProgramError where
  | generation (error : GenerationError)
  | configuration (fault : ConfigurationFault)
  | file (path : String) (problem : FileProblem)
  | optionFile (fault : OptionFileFault)
  deriving DecidableEq, Repr

namespace ProgramError

def message : ProgramError → String
  | generation error => error.message
  | configuration fault => "Configuration error: " ++ fault.message
  | file path problem => "I/O error on " ++ path ++ ": " ++ problem.message
  | optionFile fault => "Serialization error: " ++ fault.message

/-- The last line of a run that fails; errors of generation show their category. -/
def lastLine : ProgramError → String
  | generation error => "error[" ++ error.category ++ "]: " ++ error.message
  | other => "error: " ++ other.message

end ProgramError

end TableScript
