import TableScript.Algorithm
import TableScript.Script.Stage
import TableScript.Script.Template
import TableScript.Text.Split

/-!
# Fragments

The lines that each stage contributes to a script, with the import lines that their names need.  The fragment of
the model stage is the estimator of an algorithm in its family followed by the metric of the family.
-/

namespace TableScript

/-- Lines of a script with placeholders, and the import lines for the names in them. -/
structure Fragment where
  imports : List String
  lines : List (List Piece)

namespace Fragment

/-- The text of a fragment, with its placeholders. -/
def template (fragment : Fragment) : String :=
  Text.join "\n" (fragment.lines.map fun line => String.ofList (line.flatMap Piece.chars))

/-- Whether a fragment has a placeholder for a parameter. -/
def uses (fragment : Fragment) (parameter : Parameter) : Bool :=
  fragment.lines.any fun line => line.contains (.hole parameter)

/-- Whether the placeholder of a parameter is in the template of a fragment. -/
def mentions (fragment : Fragment) (parameter : Parameter) : Bool :=
  Text.contains (Template.placeholder parameter.name.toList) fragment.template.toList

end Fragment

/-- The fragment that trains the model of an algorithm in a family. -/
structure ModelFragment where
  family : Family
  algorithm : Algorithm
  estimator : Fragment

namespace Fragments

def numpyImport : String := "import numpy as np"

def load : Fragment where
  imports := []
  lines := [
    ["# Load dataset"],
    ["import pandas as pd"],
    ["dataset = pd.read_csv(", Parameter.fileLiteral, ")"],
    ["print('Dataset shape:', dataset.shape)"],
    ["print('Dataset info:')"],
    ["dataset.info()"]]

def dropFirstColumn : Fragment where
  imports := []
  lines := [
    ["# Drop first column"],
    ["X = dataset.iloc[:, 1:-1].values"],
    ["y = dataset.iloc[:, -1].values"]]

def selectFeatures : Fragment where
  imports := []
  lines := [
    ["# Select features and target"],
    ["X = dataset.iloc[:, :-1].values"],
    ["y = dataset.iloc[:, -1].values"]]

def imputeMissing : Fragment where
  imports := [numpyImport, "from sklearn.impute import SimpleImputer"]
  lines := [
    ["# Handle missing data"],
    ["imputer = SimpleImputer(missing_values = np.nan, strategy = 'mean')"],
    ["X = imputer.fit_transform(X)"]]

def encodeCategorical : Fragment where
  imports := [
    numpyImport,
    "from sklearn.compose import ColumnTransformer",
    "from sklearn.preprocessing import OneHotEncoder"]
  lines := [
    ["# Encode categorical data"],
    ["ct = ColumnTransformer(transformers = [('encoder', OneHotEncoder(), [", Parameter.column,
      "])], remainder = 'passthrough')"],
    ["X = np.array(ct.fit_transform(X))"]]

def encodeTarget : Fragment where
  imports := ["from sklearn.preprocessing import LabelEncoder"]
  lines := [
    ["# Encode target labels"],
    ["le = LabelEncoder()"],
    ["y = le.fit_transform(y)"]]

def split : Fragment where
  imports := ["from sklearn.model_selection import train_test_split"]
  lines := [
    ["# Split dataset into training and test set"],
    ["X_train, X_test, y_train, y_test = train_test_split(X, y, test_size = 0.2, random_state = 0)"]]

def scaleSplit : Fragment where
  imports := ["from sklearn.preprocessing import StandardScaler"]
  lines := [
    ["# Feature scaling"],
    ["sc = StandardScaler()"],
    ["X_train = sc.fit_transform(X_train)"],
    ["X_test = sc.transform(X_test)"]]

def scaleWhole : Fragment where
  imports := ["from sklearn.preprocessing import StandardScaler"]
  lines := [
    ["# Feature scaling"],
    ["sc = StandardScaler()"],
    ["X = sc.fit_transform(X)"]]

/-- The lines that fit a model and let it predict. -/
def fitAndPredict (model : String) : List (List Piece) := [
  [model, ".fit(", Parameter.xFit, ", ", Parameter.yFit, ")"],
  ["y_pred = ", model, ".predict(", Parameter.xEval, ")"]]

/-- The estimator of a classification algorithm. -/
def classifier (imports : List String) (construction : List Piece) : Fragment where
  imports := imports
  lines := ("classifier = " :: construction) :: fitAndPredict "classifier"

/-- The estimator of a regression algorithm. -/
def regressor (imports : List String) (construction : List Piece) : Fragment where
  imports := imports
  lines := ("regressor = " :: construction) :: fitAndPredict "regressor"

def polynomial : Fragment where
  imports := [
    "from sklearn.preprocessing import PolynomialFeatures",
    "from sklearn.linear_model import LinearRegression"]
  lines := [
    ["poly_reg = PolynomialFeatures(degree = ", Parameter.degree, ")"],
    ["X_poly = poly_reg.fit_transform(", Parameter.xFit, ")"],
    ["regressor = LinearRegression()"],
    ["regressor.fit(X_poly, ", Parameter.yFit, ")"],
    ["y_pred = regressor.predict(poly_reg.transform(", Parameter.xEval, "))"]]

def accuracy : Fragment where
  imports := ["from sklearn.metrics import accuracy_score"]
  lines := [
    ["# Evaluate model"],
    ["accuracy = accuracy_score(", Parameter.yEval, ", y_pred)"],
    ["print('Accuracy score = ' + str(round(accuracy * 100, 2)) + '%')"]]

def determination : Fragment where
  imports := ["from sklearn.metrics import r2_score"]
  lines := [
    ["# Evaluate model"],
    ["r2 = r2_score(", Parameter.yEval, ", y_pred)"],
    ["print('R^2 score = ' + str(round(r2 * 100, 2)) + '%')"]]

/-- The estimators, each under its family and algorithm. -/
def models : List ModelFragment := [
  ⟨.classification, .logisticRegression,
    classifier ["from sklearn.linear_model import LogisticRegression"]
      ["LogisticRegression(random_state = ", Parameter.randomState, ")"]⟩,
  ⟨.classification, .kNearestNeighbors,
    classifier ["from sklearn.neighbors import KNeighborsClassifier"]
      ["KNeighborsClassifier(n_neighbors = 5, metric = 'minkowski', p = 2)"]⟩,
  ⟨.classification, .supportVectorMachine,
    classifier ["from sklearn.svm import SVC"]
      ["SVC(kernel = 'linear', random_state = ", Parameter.randomState, ")"]⟩,
  ⟨.classification, .kernelSvm,
    classifier ["from sklearn.svm import SVC"]
      ["SVC(kernel = 'rbf', random_state = ", Parameter.randomState, ")"]⟩,
  ⟨.classification, .naiveBayes,
    classifier ["from sklearn.naive_bayes import GaussianNB"] ["GaussianNB()"]⟩,
  ⟨.classification, .decisionTree,
    classifier ["from sklearn.tree import DecisionTreeClassifier"]
      ["DecisionTreeClassifier(criterion = '", Parameter.criterion, "', random_state = ",
        Parameter.randomState, ")"]⟩,
  ⟨.classification, .randomForest,
    classifier ["from sklearn.ensemble import RandomForestClassifier"]
      ["RandomForestClassifier(n_estimators = 10, criterion = '", Parameter.criterion,
        "', random_state = ", Parameter.randomState, ")"]⟩,
  ⟨.regression, .linearRegression,
    regressor ["from sklearn.linear_model import LinearRegression"] ["LinearRegression()"]⟩,
  ⟨.regression, .polynomialRegression, polynomial⟩,
  ⟨.regression, .supportVectorRegression,
    regressor ["from sklearn.svm import SVR"] ["SVR(kernel = 'rbf')"]⟩,
  ⟨.regression, .decisionTreeRegression,
    regressor ["from sklearn.tree import DecisionTreeRegressor"]
      ["DecisionTreeRegressor(random_state = ", Parameter.randomState, ")"]⟩,
  ⟨.regression, .randomForestRegression,
    regressor ["from sklearn.ensemble import RandomForestRegressor"]
      ["RandomForestRegressor(n_estimators = 10, random_state = ", Parameter.randomState, ")"]⟩]

end Fragments

/-- The lines that train the model of an algorithm in a family. -/
def Family.estimator? (family : Family) (algorithm : Algorithm) : Option Fragment :=
  (Fragments.models.find? fun model => model.family = family ∧ model.algorithm = algorithm).map
    ModelFragment.estimator

/-- The lines that score the predictions of a family's model. -/
def Family.metric : Family → Fragment
  | .classification => Fragments.accuracy
  | .regression => Fragments.determination

/-- The hyperparameters that an algorithm's estimator takes from the options: those whose placeholders are in its
template. -/
def Algorithm.hyperparameters (algorithm : Algorithm) : List Parameter :=
  match algorithm.family.estimator? algorithm with
  | some estimator => [Parameter.criterion, .degree, .randomState].filter estimator.mentions
  | none => []

/-- The fragment of a stage; imports and the model have none of their own. -/
def StageId.fragment? (scope : Scope) : StageId → Option Fragment
  | .load => some Fragments.load
  | .imports => none
  | .dropFirstColumn => some Fragments.dropFirstColumn
  | .selectFeatures => some Fragments.selectFeatures
  | .imputeMissing => some Fragments.imputeMissing
  | .encodeCategorical => some Fragments.encodeCategorical
  | .encodeTarget => some Fragments.encodeTarget
  | .split => some Fragments.split
  | .scale => some (if scope.isSplit then Fragments.scaleSplit else Fragments.scaleWhole)
  | .model => none

end TableScript
