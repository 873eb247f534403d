/-!
# Generator settings

The policies of the generator: what becomes of an algorithm without an estimator in its family, and of data rows
whose width is not that of the header.
-/

namespace TableScript

/-- What becomes of a chosen algorithm that its family does not offer. -/
inductive AlgorithmPolicy where
  | error
  /-- The script has no model. -/
  | skip
  deriving DecidableEq, Repr

def AlgorithmPolicy.name : AlgorithmPolicy → String
  | .error => "error"
  | .skip => "skip"

/-- What becomes of data rows whose width is not that of the header. -/
inductive RowPolicy where
  | allow
  | reject
  deriving DecidableEq, Repr

def RowPolicy.name : RowPolicy → String
  | .allow => "allow"
  | .reject => "reject"

structure Settings where
  unknownAlgorithm : AlgorithmPolicy := .error
  raggedRows : RowPolicy := .allow
  deriving DecidableEq, Repr

end TableScript
