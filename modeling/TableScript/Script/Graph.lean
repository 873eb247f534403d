import TableScript.GenerationError
import TableScript.Options
import TableScript.Script.Stage

/-!
# The stage graph

Each stage says when it is active, which symbols it reads and which it makes under given options, and over all
options.  The order of the table never depends on the options.  `verifyGraph` checks a table: ranks rise, and
whatever a stage may read is made by an earlier one.
-/

namespace TableScript

structure Stage where
  id : StageId
  rank : Nat
  /-- What the stage may read under some options. -/
  declaredInputs : List Symbol
  /-- What the stage may make under some options. -/
  declaredOutputs : List Symbol
  active : Options → Bool
  requires : Options → List Symbol
  produces : Options → List Symbol

namespace Stage

/-- A stage that reads and makes the same symbols under all options. -/
def fixed (id : StageId) (rank : Nat) (inputs outputs : List Symbol) (active : Options → Bool) : Stage :=
  ⟨id, rank, inputs, outputs, active, fun _ => inputs, fun _ => outputs⟩

end Stage

namespace Options

/-- Whether a stage after the choice of features reads them. -/
def needsFeatures (options : Options) : Bool :=
  options.handleMissingData || options.categoricalFeature || options.categoricalTargetPresent ||
    options.splitDataset || options.performScaling || options.selection.isSome

/-- The symbols of the split data, or those of the whole data. -/
def splitOrWhole (options : Options) (split whole : List Symbol) : List Symbol :=
  if options.splitDataset then split else whole

end Options

/-- The stage with an identity. -/
def StageId.stage : StageId → Stage
  | .load => .fixed .load 1 [] [.dataset] fun _ => true
  | .imports => .fixed .imports 2 [] [] (·.importLibraries)
  | .dropFirstColumn => .fixed .dropFirstColumn 3 [.dataset] [.x, .y] (·.dropFirstColumn)
  | .selectFeatures =>
    .fixed .selectFeatures 4 [.dataset] [.x, .y] fun o => !o.dropFirstColumn && o.needsFeatures
  | .imputeMissing => .fixed .imputeMissing 5 [.x] [.x] (·.handleMissingData)
  | .encodeCategorical => .fixed .encodeCategorical 6 [.x] [.x] (·.categoricalFeature)
  | .encodeTarget => .fixed .encodeTarget 7 [.y] [.y] (·.categoricalTargetPresent)
  | .split => .fixed .split 8 [.x, .y] [.xTrain, .xTest, .yTrain, .yTest] (·.splitDataset)
  | .scale => {
      id := .scale
      rank := 9
      declaredInputs := [.x, .xTrain, .xTest]
      declaredOutputs := [.x, .xTrain, .xTest]
      active := (·.performScaling)
      requires := (·.splitOrWhole [.xTrain, .xTest] [.x])
      produces := (·.splitOrWhole [.xTrain, .xTest] [.x]) }
  | .model => {
      id := .model
      rank := 10
      declaredInputs := [.x, .y, .xTrain, .xTest, .yTrain, .yTest]
      declaredOutputs := [.yPred]
      active := (·.selection.isSome)
      requires := (·.splitOrWhole [.xTrain, .xTest, .yTrain, .yTest] [.x, .y])
      produces := fun _ => [.yPred] }

/-- All stages in their order. -/
def stageTable : List Stage :=
  StageId.all.map StageId.stage

/-- The first of some symbols that is not in a scope. -/
def Scope.firstMissing? (scope : Scope) (symbols : List Symbol) : Option Symbol :=
  symbols.find? fun symbol => !scope.contains symbol

/-- Checks the stages after one of rank `previous`, when the symbols in `made` have been made. -/
def verifyGraphFrom (previous : Option Nat) (made : Scope) : List Stage → Except GenerationError Unit
  | [] => .ok ()
  | stage :: stages =>
    if previous.any (stage.rank ≤ ·) then .error (.dependency stage.id (.order stage.rank))
    else match made.firstMissing? stage.declaredInputs with
      | some missing => .error (.dependency stage.id (.symbol missing))
      | none => verifyGraphFrom (some stage.rank) (made.extend stage.declaredOutputs) stages

/-- Checks a table of stages: ranks rise, and what a stage may read an earlier one may make. -/
def verifyGraph (stages : List Stage) : Except GenerationError Unit :=
  verifyGraphFrom none [] stages

end TableScript
