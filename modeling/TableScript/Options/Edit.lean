import TableScript.Options.Validate

/-!
# Edits

One action against the options at a time.  An edit gives the next options or is refused; a refused edit changes
nothing.
-/

namespace TableScript

inductive Edit where
  | toggle (flag : Flag)
  | setFlag (flag : Flag) (value : Bool)
  /-- Picks a family; another one than before clears the algorithm. -/
  | selectFamily (family : Option Family)
  | selectAlgorithm (algorithm : Option Algorithm)
  /-- Sets the column from a text; one that is no index unsets it. -/
  | setCategoricalColumn (text : String)
  | setPolynomialDegree (degree : UInt8)
  | setCriterion (criterion : Criterion)
  | setRandomState (family : Family) (text : String)
  deriving DecidableEq, Repr

/-- What an edit is about. -/
inductive EditTarget where
  | flag (flag : Flag)
  | selection
  | column
  | degree
  | criterion
  | randomState (family : Family)
  deriving DecidableEq, Repr

def Edit.target : Edit → EditTarget
  | .toggle flag => .flag flag
  | .setFlag flag _ => .flag flag
  | .selectFamily _ => .selection
  | .selectAlgorithm _ => .selection
  | .setCategoricalColumn _ => .column
  | .setPolynomialDegree _ => .degree
  | .setCriterion _ => .criterion
  | .setRandomState family _ => .randomState family

namespace Options

/-- Sets the random-state text of a family. -/
def setRandomState (options : Options) (text : String) : Family → Options
  | .classification => { options with classificationRandomState := text }
  | .regression => { options with regressionRandomState := text }

/-- Picks an algorithm of the chosen family. -/
def selectAlgorithm (options : Options) (algorithm : Algorithm) : Except GenerationError Options :=
  match options.family with
  | none => .error (.validation "algorithm" (.beforeFamily algorithm))
  | some family =>
    if family.offers algorithm then .ok { options with algorithm := some algorithm }
    else .error (.validation "algorithm" (.foreignAlgorithm algorithm family))

/-- The options after an edit. -/
def apply (options : Options) : Edit → Except GenerationError Options
  | .toggle flag => .ok (options.setFlag (!options.flag flag) flag)
  | .setFlag flag value => .ok (options.setFlag value flag)
  | .selectFamily family =>
    .ok { options with
      family := family
      algorithm := if family = options.family then options.algorithm else none }
  | .selectAlgorithm none => .ok { options with algorithm := none }
  | .selectAlgorithm (some algorithm) => options.selectAlgorithm algorithm
  | .setCategoricalColumn text => .ok { options with categoricalColumn := readColumn text }
  | .setPolynomialDegree degree => do
    checkDegree "polynomial_degree" degree.toNat
    return { options with polynomialDegree := degree }
  | .setCriterion criterion => .ok { options with criterion := criterion }
  | .setRandomState family text => do
    checkRandomState (randomStateField family) text
    return options.setRandomState text family

/-- The options after some edits in order; the first refusal refuses them all. -/
def applyAll (options : Options) (edits : List Edit) : Except GenerationError Options :=
  edits.foldlM apply options

end Options

end TableScript
