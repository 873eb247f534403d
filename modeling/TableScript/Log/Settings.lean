import TableScript.Configuration.Fault

/-!
# Log settings

Whether, at which level, in which format and where to the program logs.
-/

namespace TableScript

inductive LogFormat where
  | text
  | json
  deriving DecidableEq, Repr

namespace LogFormat

def all : List LogFormat := [text, json]

def name : LogFormat → String
  | text => "text"
  | json => "json"

/-- The format with a name. -/
def ofName (name : String) : Except ConfigurationFault LogFormat :=
  match all.find? fun format => format.name = name with
  | some format => .ok format
  | none => .error (.unknownLogFormat name)

end LogFormat

inductive LogOutput where
  | stdout
  | stderr
  | file
  | fileAndStderr
  deriving DecidableEq, Repr

namespace LogOutput

def all : List LogOutput := [stdout, stderr, file, fileAndStderr]

def name : LogOutput → String
  | stdout => "stdout"
  | stderr => "stderr"
  | file => "file"
  | fileAndStderr => "file+stderr"

/-- The output with a name. -/
def ofName (name : String) : Except ConfigurationFault LogOutput :=
  match all.find? fun output => output.name = name with
  | some output => .ok output
  | none => .error (.unknownLogOutput name)

/-- Whether a log goes to a file. -/
def toFile : LogOutput → Bool
  | file | fileAndStderr => true
  | stdout | stderr => false

end LogOutput

structure LogSettings where
  enabled : Bool := true
  level : String := "warn"
  format : String := "text"
  output : String := "stderr"
  /-- The log file; without one a file in the directory for the program's state. -/
  file : Option String := none
  color : Bool := true
  /-- Levels for single sources. -/
  modules : List (String × String) := []
  deriving DecidableEq, Repr

/-- The format and the output have to be known. -/
def LogSettings.validate (settings : LogSettings) : Except ConfigurationFault Unit := do
  let _ ← LogFormat.ofName settings.format
  let _ ← LogOutput.ofName settings.output

end TableScript
