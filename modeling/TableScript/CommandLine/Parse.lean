import TableScript.CommandLine
import TableScript.CommandLine.Arguments
import TableScript.Text.Blank

/-!
# Reading command lines

The options of the program stand before the command, those of a command after it.
-/

namespace TableScript.CommandLine

open Arguments (Rule Rules)

/-- A value that may not be empty. -/
def nonempty (text : String) : Except UsageFault String :=
  if text = "" then .error .invalidValue else .ok text

/-- A key and a value around the first equals sign; white space around the key does not count. -/
def readPair (text : String) : Except UsageFault (String × String) :=
  match Text.splitOnce '=' text.toList with
  | none => .error .malformedPair
  | some (key, value) =>
    let key := Text.trimChars key
    if key.isEmpty then .error .malformedPair else .ok (String.ofList key, String.ofList value)

def readFormat (text : String) : Except UsageFault OutputFormat :=
  match OutputFormat.ofName? text with
  | some format => .ok format
  | none => .error .invalidValue

/-! ## Options of the program -/

def programRules : Rules ProgramOptions where
  options := [
    { name := "workspace"
      effect := .value fun text options => (nonempty text).map fun workspace => { options with workspace } },
    { name := "config"
      effect := .value fun text options =>
        (nonempty text).map fun path => { options with configuration := some path } },
    { name := "verbose", effect := .flag fun options => { options with verbose := true } },
    { name := "quiet", effect := .flag fun options => { options with quiet := true } },
    { name := "log-level", effect := .value fun text options => .ok { options with logLevel := some text } },
    { name := "log-format", effect := .value fun text options => .ok { options with logFormat := some text } },
    { name := "log-output", effect := .value fun text options => .ok { options with logOutput := some text } },
    { name := "log-file"
      effect := .value fun text options => (nonempty text).map fun path => { options with logFile := some path } }]
  commands := ["generate", "describe", "algorithms", "help"]

/-! ## Commands -/

/-- What has been read of a command. -/
structure CommandDraft where
  dataset : Option String := none
  optionFile : Option String := none
  settings : List (String × String) := []
  format : OutputFormat := .text

def formatRule : Rule CommandDraft where
  name := "format"
  effect := .value fun text draft => (readFormat text).map fun format => { draft with format }

def optionFileRule : Rule CommandDraft where
  name := "options"
  effect := .value fun text draft => (nonempty text).map fun path => { draft with optionFile := some path }

def settingRule : Rule CommandDraft where
  name := "set"
  effect := .value fun text draft =>
    (readPair text).map fun pair => { draft with settings := draft.settings ++ [pair] }
  repeatable := true

def datasetRule : Rule CommandDraft where
  name := "dataset"
  effect := .value fun text draft => (nonempty text).map fun dataset => { draft with dataset := some dataset }

/-- Reads the arguments of a command. -/
def readDraft (rules : Rules CommandDraft) (arguments : List String) : Except UsageFault CommandDraft := do
  let (progress, _) ← Arguments.read rules {} arguments
  let progress ← Arguments.settle progress
  if progress.operands.isEmpty then return progress.value else throw .missingOperand

/-- Follows a request for help. -/
def readHelp (commands : List String) : List String → UsageFault
  | [] => .helpRequested
  | [command] => if commands.contains command then .helpRequested else .unknownCommand
  | _ => .unknownCommand

/-- Reads a command. -/
def readCommand (name : String) (arguments : List String) : Except UsageFault Command := do
  match name with
  | "generate" =>
    let draft ← readDraft ⟨[optionFileRule, settingRule, formatRule], [datasetRule], []⟩ arguments
    return .generate (draft.dataset.getD "") draft.optionFile draft.settings draft.format
  | "describe" =>
    let draft ← readDraft ⟨[formatRule], [datasetRule], []⟩ arguments
    return .describe (draft.dataset.getD "") draft.format
  | "algorithms" =>
    let draft ← readDraft ⟨[formatRule], [], []⟩ arguments
    return .algorithms draft.format
  | _ => throw (readHelp programRules.commands arguments)

/-- Reads the arguments of the program. -/
def parse (arguments : List String) : Except UsageFault CommandLine := do
  let (progress, found) ← Arguments.read programRules {} arguments
  match found with
  | none =>
    let progress ← Arguments.settle progress
    throw (if progress.seen.isEmpty then .nothingRequested else .missingCommand)
  | some (name, rest) =>
    let command ← readCommand name rest
    let options := (← Arguments.settle progress).value
    if options.verbose ∧ options.quiet then throw .conflict
    return { command, options }

end TableScript.CommandLine
