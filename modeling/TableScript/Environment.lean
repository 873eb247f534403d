import TableScript.Dict
import TableScript.Path
import TableScript.Text.Blank

/-!
# Environments

The variables that a program is started with, and the files that it keeps under the user's home directory.
-/

namespace TableScript

structure Environment where
  entries : List (String × String) := []
  /-- The home directory that the system has on record for the user. -/
  accountHome : Option String := none
  deriving DecidableEq, Repr

namespace Environment

def get? (environment : Environment) (name : String) : Option String :=
  Dict.get? name environment.entries

/-- The configuration file of the user, below the directory for configuration or else the home directory. -/
def userFile? (environment : Environment) : Option String :=
  let base := match (environment.get? "XDG_CONFIG_HOME").filter (!Text.isBlank ·) with
    | some directory => some directory
    | none => (environment.get? "HOME").map (Path.join · ".config")
  base.map fun base => Path.join (Path.join base "pipewright") "config.toml"

/-- The directory for what the program keeps from one run to the next. -/
def stateDirectory? (environment : Environment) : Option String :=
  let home := ((environment.get? "HOME").filter (· ≠ "")).or environment.accountHome
  home.map fun home =>
    let base := match (environment.get? "XDG_STATE_HOME").filter Path.isAbsolute with
      | some directory => directory
      | none => Path.join home ".local/state"
    Path.join base "pipewright"

end Environment

end TableScript
