/-!
# Symbols and stages

A script is made of stages.  A symbol is a variable of the script by which stages hand data on.
-/

namespace TableScript

inductive Symbol where
  | dataset
  | x
  | y
  | xTrain
  | xTest
  | yTrain
  | yTest
  | yPred
  deriving DecidableEq, Repr

namespace Symbol

def all : List Symbol := [.dataset, .x, .y, .xTrain, .xTest, .yTrain, .yTest, .yPred]

/-- The variable of a symbol. -/
def name : Symbol → String
  | .dataset => "dataset"
  | .x => "X"
  | .y => "y"
  | .xTrain => "X_train"
  | .xTest => "X_test"
  | .yTrain => "y_train"
  | .yTest => "y_test"
  | .yPred => "y_pred"

end Symbol

inductive StageId where
  | load
  | imports
  | dropFirstColumn
  | selectFeatures
  | imputeMissing
  | encodeCategorical
  | encodeTarget
  | split
  | scale
  | model
  deriving DecidableEq, Repr

namespace StageId

/-- The stages in the order in which a script has them. -/
def all : List StageId :=
  [.load, .imports, .dropFirstColumn, .selectFeatures, .imputeMissing, .encodeCategorical, .encodeTarget,
    .split, .scale, .model]

theorem mem_all (id : StageId) : id ∈ all := by
  cases id <;> decide

def name : StageId → String
  | .load => "load"
  | .imports => "imports"
  | .dropFirstColumn => "drop-first-column"
  | .selectFeatures => "select-features"
  | .imputeMissing => "impute-missing"
  | .encodeCategorical => "encode-categorical"
  | .encodeTarget => "encode-target"
  | .split => "split"
  | .scale => "scale"
  | .model => "model"

/-- The name of a stage in events. -/
def title : StageId → String
  | .load => "Load"
  | .imports => "Imports"
  | .dropFirstColumn => "DropFirstColumn"
  | .selectFeatures => "SelectFeatures"
  | .imputeMissing => "ImputeMissing"
  | .encodeCategorical => "EncodeCategorical"
  | .encodeTarget => "EncodeTarget"
  | .split => "Split"
  | .scale => "Scale"
  | .model => "Model"

end StageId

/-- The symbols that the stages so far have made. -/
abbrev Scope := List Symbol

namespace Scope

/-- A scope with some more symbols. -/
def extend (scope : Scope) (symbols : List Symbol) : Scope :=
  scope ++ symbols

/-- Whether the features have been split into training and test data. -/
def isSplit (scope : Scope) : Bool :=
  scope.contains .xTrain && scope.contains .xTest

end Scope

end TableScript
