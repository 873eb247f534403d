import TableScript.Environment
import TableScript.Log.Filter
import TableScript.Log.Line
import TableScript.ProgramError

/-!
# Opening logs

How the environment and the log settings decide which events are logged, in which format and where to, and what
opening the log does to the files.
-/

namespace TableScript

/-- Where the events of a run are written. -/
structure Logger where
  filter : Log.Filter
  format : LogFormat
  output : LogOutput
  color : Bool
  /-- The place of the log file, if the output includes one. -/
  file : Option Location := none
  deriving DecidableEq, Repr

/-- An event as the logger writes it, if it lets it through. -/
def Logger.line? (logger : Logger) (time : String) (event : Event) : Option String :=
  if logger.filter.allows event then
    some (match logger.format with
      | .text => Log.textLine logger.color time event
      | .json => Log.jsonLine time event)
  else none

namespace Log

/-- The directive for a single source. -/
def moduleDirective (name level : String) : Except DirectiveFault Directive :=
  Directive.read (name ++ "=" ++ level)

/-- The filter with the directives of the settings for single sources. -/
def addModules (modules : List (String × String)) (filter : Filter) : Except ConfigurationFault Filter :=
  modules.foldlM (fun filter (name, level) =>
    ((moduleDirective name level).mapError .invalidDirective).map filter.add) filter

/-- The pairs of a source and a level in a variable: between commas, around the first equals sign. -/
def variableModules (text : String) : List (String × String) :=
  (Text.splitOn ',' text.toList).filterMap fun piece =>
    (Text.splitOnce '=' piece).map fun (name, level) =>
      (String.ofList (Text.trimChars name), String.ofList (Text.trimChars level))

/-- The filter with the directives of the environment for single sources. -/
def addVariableModules (environment : Environment) (filter : Filter) : Except ConfigurationFault Filter :=
  (variableModules ((environment.get? "PIPEWRIGHT_LOG_MODULES").getD "")).foldlM (fun filter (name, level) =>
    ((moduleDirective name level).mapError .invalidVariableDirective).map filter.add) filter

/-- The filter that the environment gives as a whole, if it gives one. -/
def variableFilter? (environment : Environment) : Option Filter :=
  (environment.get? "PIPEWRIGHT_LOG").bind fun text => (Filter.read text).toOption

/-- The filter of a log: the one in the environment, or else the one of the level with those for single sources,
which do not count when the level is off. -/
def chooseFilter (environment : Environment) (settings : LogSettings) : Except ConfigurationFault Filter :=
  match variableFilter? environment with
  | some filter => .ok filter
  | none => do
    let filter := (Filter.readLeniently settings.level).1
    if settings.level = "off" then return filter
    addVariableModules environment (← addModules settings.modules filter)

/-- What is said about a level that holds texts other than directives. -/
def complaints (environment : Environment) (settings : LogSettings) : List String :=
  match variableFilter? environment with
  | some _ => []
  | none => (Filter.readLeniently settings.level).2

/-- The format of a log: the one in the environment if it is known, or else that of the settings. -/
def chooseFormat (environment : Environment) (settings : LogSettings) : Except ConfigurationFault LogFormat :=
  match (environment.get? "PIPEWRIGHT_LOG_FORMAT").map LogFormat.ofName with
  | some (.ok format) => .ok format
  | _ => LogFormat.ofName settings.format

/-- The output of a log: the one in the environment, or else that of the settings. -/
def chooseOutput (environment : Environment) (settings : LogSettings) : Except ConfigurationFault LogOutput :=
  LogOutput.ofName ((environment.get? "PIPEWRIGHT_LOG_OUTPUT").getD settings.output)

/-- The path of the log file: the one of the settings, or else a file in the directory for the program's state. -/
def filePath (environment : Environment) (settings : LogSettings) : String :=
  settings.file.getD
    (match environment.stateDirectory? with
    | some directory => Path.join directory "pipewright.log"
    | none => "pipewright.log")

/-- The logger that the environment and the settings decide on, before its file is opened. -/
def choose (environment : Environment) (settings : LogSettings) : Except ConfigurationFault Logger := do
  let filter ← chooseFilter environment settings
  let format ← chooseFormat environment settings
  let output ← chooseOutput environment settings
  return { filter, format, output, color := settings.color && !output.toFile }

/-- Opens a log file, making the directories above it that are missing. -/
def openFile (files : FileStore) (path : String) : Except ProgramError Location × FileStore :=
  let parent := (Path.parent? path).getD ""
  match files.makeDirectories (Path.ancestry parent) with
  | (.error problem, files) => (.error (.file parent problem), files)
  | (.ok (), files) => match files.openAtEnd path with
    | .ok (location, files) => (.ok location, files)
    | .error problem => (.error (.file path problem), files)

/-- What opening a log leads to: a logger unless logging is off, what was said on the way, and the files after
it. -/
structure Opening where
  outcome : Except ProgramError (Option Logger)
  complaints : List String
  files : FileStore

/-- Opens the log of a run. -/
def start (environment : Environment) (files : FileStore) (settings : LogSettings) : Opening :=
  if !settings.enabled then ⟨.ok none, [], files⟩
  else
    let said := complaints environment settings
    match choose environment settings with
    | .error fault => ⟨.error (.configuration fault), said, files⟩
    | .ok logger =>
      if !logger.output.toFile then ⟨.ok (some logger), said, files⟩
      else match openFile files (filePath environment settings) with
        | (.error error, files) => ⟨.error error, said, files⟩
        | (.ok location, files) => ⟨.ok (some { logger with file := some location }), said, files⟩

end Log

end TableScript
