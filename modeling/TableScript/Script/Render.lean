import TableScript.Dataset
import TableScript.Script.Literal
import TableScript.Script.Plan

/-!
# Rendering stages

The text of one stage under given options, for a dataset, within a plan, and with the symbols of a scope.
-/

namespace TableScript

/-- Adds the lines that are not there yet. -/
def addImports (lines more : List String) : List String :=
  more.foldl (fun lines line => if lines.contains line then lines else lines ++ [line]) lines

/-- The import lines that a stage needs for the names in its text. -/
def StageId.importLines (options : Options) : StageId → List String
  | .imports => []
  | .model => match options.selection with
    | some (family, algorithm) => match family.estimator? algorithm with
      | some estimator => estimator.imports ++ family.metric.imports
      | none => []
    | none => []
  | id => ((id.fragment? []).map Fragment.imports).getD []

/-- The import lines that the stages of a plan need, each once, after those in `first`. -/
def Plan.importLines (plan : Plan) (options : Options) (first : List String) : List String :=
  plan.stages.foldl (fun lines id => addImports lines (id.importLines options)) first

namespace Render

/-- The event that tells of a column index without a column. -/
def columnOutside (column width : Nat) : Event where
  level := .warn
  source := .fragments
  message := "Categorical column index is outside the feature matrix"
  fields := [("column", .number column), ("feature_columns", .number width)]

def load (dataset : Dataset) : String :=
  Template.fill Fragments.load.template
    [(Parameter.fileLiteral.name, Literal.write dataset.fileName)]

/-- numpy first, then what the stages of the plan need. -/
def imports (options : Options) (plan : Plan) : String :=
  Text.join "\n" ("# Import libraries" :: plan.importLines options [Fragments.numpyImport])

def encodeCategorical (options : Options) : String :=
  Template.fill Fragments.encodeCategorical.template
    [(Parameter.column.name, Text.decimal options.column)]

/-- The values for the placeholders of an estimator and a metric. -/
def modelBindings (options : Options) (family : Family) (scope : Scope) : List (String × String) :=
  let (xFit, yFit, xEval, yEval) : Symbol × Symbol × Symbol × Symbol :=
    if scope.isSplit then (.xTrain, .yTrain, .xTest, .yTest) else (.x, .y, .x, .y)
  [(Parameter.xFit.name, xFit.name), (Parameter.yFit.name, yFit.name), (Parameter.xEval.name, xEval.name),
    (Parameter.yEval.name, yEval.name), (Parameter.randomState.name, options.randomState family),
    (Parameter.criterion.name, options.criterion.name),
    (Parameter.degree.name, Text.decimal options.polynomialDegree.toNat)]

/-- The estimator under the heading of its algorithm and, after a blank line, the metric. -/
def model (options : Options) (scope : Scope) : Except GenerationError String :=
  match options.selection with
  | none => .ok ""
  | some (family, algorithm) => match family.estimator? algorithm with
    | none => .error (.unknownAlgorithm family.name algorithm.name)
    | some estimator =>
      let bindings := modelBindings options family scope
      .ok ("# " ++ algorithm.label ++ "\n" ++ Template.fill estimator.template bindings ++ "\n\n" ++
        Template.fill family.metric.template bindings)

end Render

/-- The text of a stage. -/
def StageId.render (options : Options) (dataset : Dataset) (plan : Plan) (scope : Scope) (id : StageId) :
    Traced GenerationError String :=
  match id with
  | .load => pure (Render.load dataset)
  | .imports => pure (Render.imports options plan)
  | .encodeCategorical => do
    let width := (dataset.featureColumns options.dropFirstColumn).length
    if width ≤ options.column then .tell (Render.columnOutside options.column width)
    return Render.encodeCategorical options
  | .model => .ofExcept (Render.model options scope)
  | id => pure (((id.fragment? scope).map Fragment.template).getD "")

end TableScript
