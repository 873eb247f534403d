import TableScript.Algorithm
import TableScript.Text.Blank
import TableScript.Text.Numeral

/-!
# Options

The record that decides which stages a script has and with what parameters.  `Options.validate` says whether every
field is in its domain; an algorithm of another family than the chosen one is left to the lookup of its
estimator.
-/

namespace TableScript

/-- The switches of the options. -/
inductive Flag where
  | importLibraries
  | dropFirstColumn
  | handleMissingData
  | categoricalFeature
  | categoricalTargetPresent
  | splitDataset
  | performScaling
  deriving DecidableEq, Repr

namespace Flag

def all : List Flag :=
  [.importLibraries, .dropFirstColumn, .handleMissingData, .categoricalFeature, .categoricalTargetPresent,
    .splitDataset, .performScaling]

/-- The field name of a switch. -/
def name : Flag → String
  | .importLibraries => "import_libraries"
  | .dropFirstColumn => "drop_first_column"
  | .handleMissingData => "handle_missing_data"
  | .categoricalFeature => "categorical_feature"
  | .categoricalTargetPresent => "categorical_target_present"
  | .splitDataset => "split_dataset"
  | .performScaling => "perform_scaling"

end Flag

structure Options where
  importLibraries : Bool := false
  dropFirstColumn : Bool := false
  handleMissingData : Bool := false
  categoricalFeature : Bool := false
  categoricalTargetPresent : Bool := false
  splitDataset : Bool := false
  performScaling : Bool := false
  family : Option Family := none
  algorithm : Option Algorithm := none
  /-- The column to encode; none stands for the first. -/
  categoricalColumn : Option UInt64 := none
  polynomialDegree : UInt8 := 2
  criterion : Criterion := .gini
  /-- Free text; a blank stands for `0`. -/
  classificationRandomState : String := ""
  /-- Free text; a blank stands for `0`. -/
  regressionRandomState : String := ""
  deriving DecidableEq, Repr

namespace Options

/-- The value of a switch. -/
def flag (options : Options) : Flag → Bool
  | .importLibraries => options.importLibraries
  | .dropFirstColumn => options.dropFirstColumn
  | .handleMissingData => options.handleMissingData
  | .categoricalFeature => options.categoricalFeature
  | .categoricalTargetPresent => options.categoricalTargetPresent
  | .splitDataset => options.splitDataset
  | .performScaling => options.performScaling

/-- Sets a switch. -/
def setFlag (options : Options) (value : Bool) : Flag → Options
  | .importLibraries => { options with importLibraries := value }
  | .dropFirstColumn => { options with dropFirstColumn := value }
  | .handleMissingData => { options with handleMissingData := value }
  | .categoricalFeature => { options with categoricalFeature := value }
  | .categoricalTargetPresent => { options with categoricalTargetPresent := value }
  | .splitDataset => { options with splitDataset := value }
  | .performScaling => { options with performScaling := value }

/-- Reading a switch after one has been set. -/
theorem flag_setFlag (options : Options) (value : Bool) (set read : Flag) :
    (options.setFlag value set).flag read = if read = set then value else options.flag read := by
  cases set <;> cases read <;> rfl

/-- Family and algorithm, when both are chosen. -/
def selection (options : Options) : Option (Family × Algorithm) :=
  match options.family, options.algorithm with
  | some family, some algorithm => some (family, algorithm)
  | _, _ => none

/-- The column to encode. -/
def column (options : Options) : Nat :=
  match options.categoricalColumn with
  | some column => column.toNat
  | none => 0

/-- The random-state text of a family as given. -/
def randomStateText (options : Options) : Family → String
  | .classification => options.classificationRandomState
  | .regression => options.regressionRandomState

/-- The random state of a family as scripts write it: the trimmed text, or `0` for a blank. -/
def randomState (options : Options) (family : Family) : String :=
  let text := Text.trim (options.randomStateText family)
  if text = "" then "0" else text

/-- The field name of a family's random state. -/
def randomStateField : Family → String
  | .classification => "classification_random_state"
  | .regression => "regression_random_state"

end Options

/-- The degrees of polynomial regression. -/
def isDegree (degree : Nat) : Bool :=
  2 ≤ degree && degree ≤ 5

/-- A random state is blank, `None` or an unsigned numeral of 32 bits. -/
def isRandomState (text : String) : Bool :=
  let text := Text.trim text
  text = "" || text = "None" || (Text.readUnsigned UInt32.size text).isSome

/-- The column index a text stands for; a text that is no index leaves the column unset. -/
def readColumn (text : String) : Option UInt64 :=
  (Text.readUnsigned UInt64.size (Text.trim text)).map UInt64.ofNat

end TableScript
