import TableScript.CommandLine
import TableScript.Configuration.Sources
import TableScript.OptionFile
import TableScript.Report.Catalogue
import TableScript.Report.Dataset
import TableScript.Report.Script
import TableScript.Script

/-!
# Carrying out commands

A command is carried out under a configuration, with paths seen from the workspace.  Its result is what it prints.
-/

namespace TableScript

namespace Execution

/-- The configuration that the options of the program choose. -/
def configuration (environment : Environment) (files : FileStore) (options : ProgramOptions)
    (support : Configuration.FormatSupport := {}) : Traced ConfigurationFault Configuration :=
  match options.configuration with
  | some path => .ofExcept (Configuration.loadFile environment files path support)
  | none => Configuration.load environment files options.workspace support

/-- The configuration that the options of the program choose, if its log settings are valid. -/
def validConfiguration (environment : Environment) (files : FileStore) (options : ProgramOptions)
    (support : Configuration.FormatSupport := {}) : Traced ProgramError Configuration := do
  let configuration ← (configuration environment files options support).mapError .configuration
  .ofExcept (configuration.validate.mapError .configuration)
  return configuration

/-- The name by which a dataset goes: the last part of its path. -/
def datasetName (path : String) : String :=
  (Path.fileName? path).getD path

/-- The text of a dataset. -/
def readDataset (files : FileStore) (path : String) : Except ProgramError String :=
  match files.readText path with
  | .ok text => .ok text
  | .error .notText => .error (.generation (.malformedInput (.notText (datasetName path))))
  | .error problem => .error (.file path problem)

/-- What is known of the dataset in a file. -/
def loadDataset (files : FileStore) (settings : Settings) (path : String) : Traced ProgramError Dataset := do
  let text ← .ofExcept (readDataset files path)
  (Dataset.extract settings.raggedRows (datasetName path) text).mapError .generation

/-- The options of a command: the fields of its option file, and then those given one by one. -/
def form (files : FileStore) (workspace : String) (optionFile : Option String)
    (settings : List (String × String)) : Except ProgramError Form := do
  let form ← match optionFile with
    | some path => OptionFile.load files (Path.join workspace path)
    | none => .ok {}
  return settings.foldl (fun form (key, value) => form.insert key value) form

/-- The event that tells of a command. -/
def executing (command : Command) : Event where
  level := .debug
  source := .command
  message := "Executing command"
  fields := [("command", .quoted command.name)]

/-- The event that tells of a finished script. -/
def generated (dataset : Dataset) (script : Script) : Event where
  level := .info
  source := .command
  message := "Generated script"
  fields := [("dataset", .plain dataset.fileName), ("stages", .number script.producedBy.length),
    ("fingerprint", .plain script.fingerprint)]

/-- The script for the dataset in a file. -/
def generateScript (files : FileStore) (settings : Settings) (workspace dataset : String)
    (optionFile : Option String) (fields : List (String × String)) : Traced ProgramError (Dataset × Script) := do
  let dataset ← loadDataset files settings (Path.join workspace dataset)
  let form ← .ofExcept (form files workspace optionFile fields)
  let options ← form.parse.mapError .generation
  let script ← (generate settings options (some dataset)).mapError .generation
  .tell (generated dataset script)
  return (dataset, script)

end Execution

open Execution in
/-- Carries out a command; what it prints does not end in a line feed of its own. -/
def Command.execute (files : FileStore) (settings : Settings) (workspace : String) (command : Command) :
    Traced ProgramError String := do
  .tell (executing command)
  match command with
  | .generate dataset optionFile fields format =>
    let (dataset, script) ← generateScript files settings workspace dataset optionFile fields
    return match format with
      | .text => script.reportText
      | .json => script.reportJson dataset.fileName
  | .describe dataset format =>
    let dataset ← loadDataset files settings (Path.join workspace dataset)
    return match format with
      | .text => dataset.reportText
      | .json => dataset.reportJson
  | .algorithms format =>
    return match format with
      | .text => Catalogue.text
      | .json => Catalogue.json

end TableScript
