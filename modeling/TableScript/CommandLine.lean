/-!
# Command lines

What the program can be asked to do, and the options that hold for all of it.
-/

namespace TableScript

/-- The format of what a command prints. -/
inductive OutputFormat where
  | text
  | json
  deriving DecidableEq, Repr

namespace OutputFormat

def all : List OutputFormat := [text, json]

def name : OutputFormat → String
  | text => "text"
  | json => "json"

def ofName? (name : String) : Option OutputFormat :=
  all.find? fun format => format.name = name

end OutputFormat

inductive Command where
  /-- Write the script for a dataset, with the options of a file and those given one by one. -/
  | generate (dataset : String) (optionFile : Option String) (settings : List (String × String))
      (format : OutputFormat)
  /-- Show what is known of a dataset. -/
  | describe (dataset : String) (format : OutputFormat)
  /-- List the algorithms. -/
  | algorithms (format : OutputFormat)
  deriving DecidableEq, Repr

def Command.name : Command → String
  | generate _ _ _ _ => "generate"
  | describe _ _ => "describe"
  | algorithms _ => "algorithms"

/-- The options that stand before a command. -/
structure ProgramOptions where
  /-- The directory that relative paths start from and whose configuration counts. -/
  workspace : String := "."
  configuration : Option String := none
  verbose : Bool := false
  quiet : Bool := false
  logLevel : Option String := none
  logFormat : Option String := none
  logOutput : Option String := none
  logFile : Option String := none
  deriving DecidableEq, Repr

structure CommandLine where
  command : Command
  options : ProgramOptions
  deriving DecidableEq, Repr

end TableScript
