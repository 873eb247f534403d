import TableScript.Event
import TableScript.Script.Fragment
import TableScript.Script.Graph
import TableScript.Settings

/-!
# Plans

A plan lists the stages of a script.  `Plan.build` keeps the active stages of the table; `Plan.validate` checks any
list of stages against the order of the table and the symbols that each stage reads.
-/

namespace TableScript

structure Plan where
  stages : List StageId
  deriving DecidableEq, Repr

namespace Plan

/-- The chosen family and algorithm, when the family does not offer the algorithm. -/
def unknownSelection? (options : Options) : Option (Family × Algorithm) :=
  options.selection.filter fun (family, algorithm) => (family.estimator? algorithm).isNone

/-- The event that tells of a model left out. -/
def skipped (family : Family) (algorithm : Algorithm) : Event where
  level := .warn
  source := .plan
  message := "Skipping model stage with no matching fragment"
  fields := [("family", .plain family.name), ("algorithm", .plain algorithm.name)]

/-- The event that tells of a plan. -/
def built (stages : List StageId) : Event where
  level := .debug
  source := .plan
  message := "Built activation plan"
  fields := [("stages", .plain ("[" ++ Text.join ", " (stages.map StageId.title) ++ "]"))]

/-- The plan of the active stages.  An algorithm that its family does not offer is an error or leaves the model
out, as the policy says. -/
def build (options : Options) (policy : AlgorithmPolicy) : Traced GenerationError Plan := do
  let active := StageId.all.filter fun id => id.stage.active options
  let stages ← match unknownSelection? options, policy with
    | some (family, algorithm), .error => .throw (.unknownAlgorithm family.name algorithm.name)
    | some (family, algorithm), .skip => do
      .tell (skipped family algorithm)
      pure (active.filter (· ≠ .model))
    | none, _ => pure active
  .tell (built stages)
  return ⟨stages⟩

/-- Checks the stages after one of rank `previous`, when the symbols in `scope` have been made. -/
def validateFrom (options : Options) (previous : Nat) (scope : Scope) :
    List StageId → Except GenerationError Unit
  | [] => .ok ()
  | id :: ids =>
    let stage := id.stage
    if stage.rank ≤ previous then .error (.dependency id (.order stage.rank))
    else match scope.firstMissing? (stage.requires options) with
      | some missing => .error (.dependency id (.symbol missing))
      | none => validateFrom options stage.rank (scope.extend (stage.produces options)) ids

/-- Checks that the stages of a plan are in order and that each finds the symbols that it reads. -/
def validate (plan : Plan) (options : Options) : Except GenerationError Unit :=
  validateFrom options 0 [] plan.stages

end Plan

end TableScript
