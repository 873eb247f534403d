/-!
# Algorithms

The catalogue: two families, the algorithms each of them offers, and the split criteria of tree classifiers.
Every entry has one name in the lower-case spelling that forms, files and listings use; some algorithms are
also known by a short name.
-/

namespace TableScript

inductive Family where
  | classification
  | regression
  deriving DecidableEq, Repr

namespace Family

def all : List Family := [.classification, .regression]

theorem mem_all (family : Family) : family ∈ all := by
  cases family <;> decide

def name : Family → String
  | .classification => "classification"
  | .regression => "regression"

def ofName? (text : String) : Option Family :=
  all.find? fun family => family.name = text

end Family

inductive Algorithm where
  | logisticRegression
  | kNearestNeighbors
  | supportVectorMachine
  | kernelSvm
  | naiveBayes
  | decisionTree
  | randomForest
  | linearRegression
  | polynomialRegression
  | supportVectorRegression
  | decisionTreeRegression
  | randomForestRegression
  deriving DecidableEq, Repr

namespace Algorithm

def all : List Algorithm :=
  [.logisticRegression, .kNearestNeighbors, .supportVectorMachine, .kernelSvm, .naiveBayes, .decisionTree,
    .randomForest, .linearRegression, .polynomialRegression, .supportVectorRegression,
    .decisionTreeRegression, .randomForestRegression]

theorem mem_all (algorithm : Algorithm) : algorithm ∈ all := by
  cases algorithm <;> decide

def name : Algorithm → String
  | .logisticRegression => "logistic-regression"
  | .kNearestNeighbors => "k-nearest-neighbors"
  | .supportVectorMachine => "support-vector-machine"
  | .kernelSvm => "kernel-svm"
  | .naiveBayes => "naive-bayes"
  | .decisionTree => "decision-tree"
  | .randomForest => "random-forest"
  | .linearRegression => "linear-regression"
  | .polynomialRegression => "polynomial-regression"
  | .supportVectorRegression => "support-vector-regression"
  | .decisionTreeRegression => "decision-tree-regression"
  | .randomForestRegression => "random-forest-regression"

/-- The heading under which listings and scripts show an algorithm. -/
def label : Algorithm → String
  | .logisticRegression => "Logistic Regression"
  | .kNearestNeighbors => "K-Nearest Neighbors"
  | .supportVectorMachine => "Support Vector Machine"
  | .kernelSvm => "Kernel SVM"
  | .naiveBayes => "Naive Bayes"
  | .decisionTree => "Decision Tree Classification"
  | .randomForest => "Random Forest Classification"
  | .linearRegression => "Linear Regression"
  | .polynomialRegression => "Polynomial Regression"
  | .supportVectorRegression => "Support Vector Regression"
  | .decisionTreeRegression => "Decision Tree Regression"
  | .randomForestRegression => "Random Forest Regression"

/-- The family that offers an algorithm. -/
def family : Algorithm → Family
  | .logisticRegression | .kNearestNeighbors | .supportVectorMachine | .kernelSvm | .naiveBayes
  | .decisionTree | .randomForest => .classification
  | .linearRegression | .polynomialRegression | .supportVectorRegression | .decisionTreeRegression
  | .randomForestRegression => .regression

/-- Short names that stand for catalogue entries. -/
def shortNames : List (String × Algorithm) :=
  [("svm", .kernelSvm), ("svr", .supportVectorRegression), ("random-forest-classifier", .randomForest)]

/-- The algorithm with this name or short name. -/
def ofName? (text : String) : Option Algorithm :=
  (all.find? fun algorithm => algorithm.name = text).or
    ((shortNames.find? fun entry => entry.1 = text).map Prod.snd)

/-- The words for a name that no algorithm has. -/
def unknownName (text : String) : String :=
  "unknown algorithm '" ++ text ++ "'"

end Algorithm

namespace Family

/-- The algorithms a family offers, in catalogue order. -/
def algorithms (family : Family) : List Algorithm :=
  Algorithm.all.filter fun algorithm => algorithm.family = family

/-- Whether the family offers the algorithm. -/
def offers (family : Family) (algorithm : Algorithm) : Bool :=
  algorithm.family = family

theorem offers_iff_mem {family : Family} {algorithm : Algorithm} :
    family.offers algorithm = true ↔ algorithm ∈ family.algorithms := by
  simp [offers, algorithms, Algorithm.mem_all]

end Family

/-- How a tree classifier measures the quality of a split. -/
inductive Criterion where
  | gini
  | entropy
  | logLoss
  deriving DecidableEq, Repr

namespace Criterion

def all : List Criterion := [.gini, .entropy, .logLoss]

def name : Criterion → String
  | .gini => "gini"
  | .entropy => "entropy"
  | .logLoss => "log_loss"

def ofName? (text : String) : Option Criterion :=
  all.find? fun criterion => criterion.name = text

end Criterion

end TableScript
