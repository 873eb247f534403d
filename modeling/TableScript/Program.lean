import TableScript.CommandLine.Parse
import TableScript.Execution
import TableScript.Log.Opening

/-!
# The program

A run takes the arguments, the environment and the files, and gives an exit code, two output texts and the files
after it.  Only the log changes files.
-/

namespace TableScript

namespace Program

/-- The log settings of a run: those of its configuration, as far as it can be loaded, under the options. -/
def logSettings (environment : Environment) (files : FileStore) (options : ProgramOptions)
    (support : Configuration.FormatSupport := {}) : LogSettings :=
  let loaded := match (Execution.configuration environment files options support).outcome with
    | .ok configuration => configuration.logging
    | .error _ => {}
  let quieted := if options.quiet then { loaded with enabled := false } else loaded
  let verbose :=
    if options.verbose then
      { quieted with level := "debug", output := if quieted.output = "file" then "file+stderr" else quieted.output }
    else quieted
  { verbose with
    level := options.logLevel.getD verbose.level
    format := options.logFormat.getD verbose.format
    output := options.logOutput.getD verbose.output
    file := options.logFile.or verbose.file }

def starting : Event where
  level := .info
  source := .program
  message := "pipewright starting"

def loadingFailed (error : ProgramError) : Event where
  level := .error
  source := .program
  message := "Error loading configuration: " ++ error.message

def commandFailed (error : ProgramError) : Event where
  level := .error
  source := .program
  message := "Command failed: " ++ error.message

/-- The paths at which a configuration may be found. -/
def configurationPaths (environment : Environment) (files : FileStore) (options : ProgramOptions) : List String :=
  let paths := match options.configuration with
    | some path => [path]
    | none => environment.userFile?.toList ++ environment.userFile?.toList.map files.realPath ++
        Configuration.workspaceFiles environment options.workspace
  paths.flatMap fun path => path :: (Configuration.candidates path).map Prod.fst

/-- The other paths that a command line uses: the files of its command, and the log file. -/
def workPaths (environment : Environment) (files : FileStore) (commandLine : CommandLine)
    (support : Configuration.FormatSupport := {}) : List String :=
  let options := commandLine.options
  let paths := match commandLine.command with
    | .generate dataset optionFile _ _ => dataset :: optionFile.toList
    | .describe dataset _ => [dataset]
    | .algorithms _ => []
  Log.filePath environment (logSettings environment files options support) :: paths.map (Path.join options.workspace)

/-- Carries out a command line, telling what happens. -/
def session (environment : Environment) (files : FileStore) (commandLine : CommandLine)
    (support : Configuration.FormatSupport := {}) : Traced ProgramError String := do
  .tell starting
  let options := commandLine.options
  let configuration ← (Execution.validConfiguration environment files options support).tellError loadingFailed
  (commandLine.command.execute files configuration.generator options.workspace).tellError commandFailed

/-- What a command prints, with a line feed at the end unless there is nothing to print. -/
def printed (output : String) : String :=
  if output = "" ∨ output.toList.getLast? = some '\n' then output else output ++ "\n"

/-- What the program says about its use. -/
def usage : String :=
  "Usage: pipewright [OPTIONS] <COMMAND>\n\n" ++
  "Commands:\n" ++
  "  generate <DATASET> [--options <FILE>] [--set <KEY=VALUE>]... [--format text|json]\n" ++
  "  describe <DATASET> [--format text|json]\n" ++
  "  algorithms [--format text|json]\n" ++
  "  help [COMMAND]\n\n" ++
  "Options:\n" ++
  "  --workspace <DIRECTORY>  --config <FILE>  --verbose  --quiet\n" ++
  "  --log-level <LEVEL>  --log-format <FORMAT>  --log-output <OUTPUT>  --log-file <FILE>\n" ++
  "  -h, --help\n"

/-- What a run leaves behind. -/
structure Outcome where
  exitCode : Nat
  stdout : String
  stderr : String
  files : FileStore
  deriving DecidableEq, Repr

/-- The lines of some events in a log. -/
def logLines (logger : Logger) (time : String) (events : List Event) : String :=
  String.join (events.filterMap (logger.line? time))

/-- Puts the lines of a log in front of what a run writes to the same place. -/
def addLog (logger : Logger) (lines : String) (outcome : Outcome) : Outcome :=
  let outcome := match logger.output with
    | .stdout => { outcome with stdout := lines ++ outcome.stdout }
    | .stderr | .fileAndStderr => { outcome with stderr := lines ++ outcome.stderr }
    | .file => outcome
  match logger.file with
  | some location => { outcome with files := outcome.files.append location (Text.toBytes lines) }
  | none => outcome

/-- Carries out a command line. -/
def runCommandLine (environment : Environment) (files : FileStore) (time : String) (commandLine : CommandLine)
    (support : Configuration.FormatSupport := {}) : Outcome :=
  let opening := Log.start environment files (logSettings environment files commandLine.options support)
  let said := String.join opening.complaints
  match opening.outcome with
  | .error error => ⟨1, "", said ++ "Failed to initialize logging: " ++ error.message ++ "\n", opening.files⟩
  | .ok logger =>
    let session := session environment opening.files commandLine support
    let outcome : Outcome := match session.outcome with
      | .ok output => ⟨0, printed output, "", opening.files⟩
      | .error error => ⟨1, "", error.lastLine ++ "\n", opening.files⟩
    let outcome := match logger with
      | some logger => addLog logger (logLines logger time session.events) outcome
      | none => outcome
    { outcome with stderr := said ++ outcome.stderr }

/-- Runs the program at a time.  Arguments that are not understood end it with exit code 2. -/
def run (environment : Environment) (files : FileStore) (time : String) (arguments : List String)
    (support : Configuration.FormatSupport := {}) : Outcome :=
  match CommandLine.parse arguments with
  | .ok commandLine => runCommandLine environment files time commandLine support
  | .error .helpRequested => ⟨0, usage, "", files⟩
  | .error _ => ⟨2, "", usage, files⟩

end Program

end TableScript
