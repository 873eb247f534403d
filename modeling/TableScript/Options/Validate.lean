import TableScript.GenerationError
import TableScript.Options

/-!
# Validity of options

The checks that options pass before a script is generated, the first failure counting.
-/

namespace TableScript

/-- Refuses a random state that is not one. -/
def checkRandomState (field text : String) : Except GenerationError Unit :=
  if isRandomState text then .ok () else .error (.validation field (.notRandomState (Text.trim text)))

/-- Refuses a degree that is not one. -/
def checkDegree (field : String) (degree : Nat) : Except GenerationError Unit :=
  if isDegree degree then .ok () else .error (.validation field (.degreeOutside degree))

/-- Refuses options with an algorithm and no family, or with another field outside its domain. -/
def Options.validate (options : Options) : Except GenerationError Unit :=
  match options.family, options.algorithm with
  | none, some algorithm => .error (.validation "algorithm" (.withoutFamily algorithm))
  | _, _ => do
    checkDegree "polynomial_degree" options.polynomialDegree.toNat
    checkRandomState (Options.randomStateField .classification) options.classificationRandomState
    checkRandomState (Options.randomStateField .regression) options.regressionRandomState

end TableScript
