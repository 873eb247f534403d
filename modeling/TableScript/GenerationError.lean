import TableScript.Algorithm
import TableScript.Json.Fault
import TableScript.Script.Stage
import TableScript.Text.Numeral

/-!
# Errors of generation

The causes for which a dataset, an option or a plan is refused, and the words for each.
-/

namespace TableScript

/-- What is wrong with a dataset. -/
inductive DatasetFault where
  | noHeader (fileName : String)
  | raggedRow (fileName : String) (line cells headerCells : Nat)
  | notText (fileName : String)
  deriving DecidableEq, Repr

def DatasetFault.message : DatasetFault → String
  | .noHeader fileName => "'" ++ fileName ++ "' has no header line (input is empty or blank)"
  | .raggedRow fileName line cells headerCells =>
    "'" ++ fileName ++ "' line " ++ Text.decimal line ++ " has " ++ Text.decimal cells ++
      " cells, header has " ++ Text.decimal headerCells
  | .notText fileName => "'" ++ fileName ++ "' is not valid UTF-8 text"

/-- What is wrong with an option. -/
inductive OptionFault where
  /-- An algorithm stands without a family in finished options. -/
  | withoutFamily (algorithm : Algorithm)
  /-- An algorithm is picked while no family is. -/
  | beforeFamily (algorithm : Algorithm)
  /-- A form names an algorithm and no family. -/
  | requiresFamily (algorithm : Algorithm)
  | foreignAlgorithm (algorithm : Algorithm) (family : Family)
  | degreeOutside (degree : Nat)
  | notDegree (text : String)
  | notRandomState (text : String)
  | notBoolean (text : String)
  | unknownFamily (text : String)
  | unknownCriterion (text : String)
  | invalidJson (fault : Json.SyntaxFault)
  | notObject
  | notScalar (key : String)
  deriving DecidableEq, Repr

def OptionFault.message : OptionFault → String
  | .withoutFamily algorithm => "'" ++ algorithm.name ++ "' selected without an algorithm family"
  | .beforeFamily algorithm => "'" ++ algorithm.name ++ "' selected before an algorithm family"
  | .requiresFamily algorithm => "'" ++ algorithm.name ++ "' requires an algorithm family"
  | .foreignAlgorithm algorithm family =>
    "'" ++ algorithm.name ++ "' is not a " ++ family.name ++ " algorithm"
  | .degreeOutside degree => Text.decimal degree ++ " is outside 2..=5"
  | .notDegree text => "'" ++ text ++ "' is not a degree"
  | .notRandomState text => "'" ++ text ++ "' is not an integer or None"
  | .notBoolean text => "'" ++ text ++ "' is not 'true' or 'false'"
  | .unknownFamily text => "unknown algorithm family '" ++ text ++ "'"
  | .unknownCriterion text =>
    "unknown criterion '" ++ text ++ "' (expected gini, entropy or log_loss)"
  | .invalidJson fault => "invalid JSON: " ++ fault.message
  | .notObject => "expected a JSON object"
  | .notScalar key => "'" ++ key ++ "' must be a scalar"

/-- What a stage lacks. -/
inductive Missing where
  /-- Its rank does not exceed that of the stage before it. -/
  | order (rank : Nat)
  /-- No earlier stage makes a symbol that it reads. -/
  | symbol (lacking : Symbol)
  deriving DecidableEq, Repr

def Missing.message : Missing → String
  | .order rank => "<rank " ++ Text.decimal rank ++ " out of order>"
  | .symbol lacking => lacking.name

inductive GenerationError where
  | malformedInput (fault : DatasetFault)
  | validation (field : String) (fault : OptionFault)
  | dependency (stage : StageId) (missing : Missing)
  | unknownAlgorithm (family algorithm : String)
  deriving DecidableEq, Repr

def GenerationError.message : GenerationError → String
  | .malformedInput fault => "Malformed dataset input: " ++ fault.message
  | .validation field fault => "Invalid option '" ++ field ++ "': " ++ fault.message
  | .dependency stage missing =>
    "Stage '" ++ stage.name ++ "' requires symbol '" ++ missing.message ++
      "' which no earlier emitted stage produced"
  | .unknownAlgorithm family algorithm =>
    "No fragment for algorithm '" ++ algorithm ++ "' in family '" ++ family ++ "'"

/-- The category of an error in the program's last line. -/
def GenerationError.category : GenerationError → String
  | .malformedInput _ => "malformed-input"
  | .validation _ _ => "validation"
  | .dependency _ _ => "dependency"
  | .unknownAlgorithm _ _ => "unknown-algorithm"

end TableScript
