import TableScript.Event
import TableScript.GenerationError
import TableScript.Settings
import TableScript.Text.Blank
import TableScript.Text.Split

/-!
# Datasets

What the generator knows of a dataset: the columns named by the first line that is not blank, the number of data
rows and the first few of them.  A cell ends at a comma; a comma inside quotes ends it too.
-/

namespace TableScript

structure Dataset where
  fileName : String
  /-- The lines that are not blank, without the header. -/
  rowCount : Nat
  columns : List String
  previewRows : List (List String)
  deriving DecidableEq, Repr

namespace Dataset

/-- The number of data rows that are kept. -/
def previewLimit : Nat := 5

/-- The cells of a line, without the blanks and then the double quotes around each. -/
def cells (line : List Char) : List String :=
  (Text.splitOn ',' line).map fun cell =>
    String.ofList (Text.trimWhile (· == '"') (Text.trimChars cell))

/-- The lines that are not blank, with their numbers counted from 1 over all lines. -/
def filledLines (text : String) : List (Nat × List Char) :=
  ((Text.lines text.toList).zipIdx 1).filterMap fun (line, number) =>
    if line.all Text.isBlankChar then none else some (number, line)

/-- The event that tells of an extracted dataset. -/
def extracted (fileName : String) (columns rowCount raggedRows : Nat) : Event where
  level := .debug
  source := .dataset
  message := "Extracted dataset descriptor"
  fields := [("file_name", .quoted fileName), ("columns", .number columns), ("row_count", .number rowCount),
    ("ragged_rows", .number raggedRows)]

/-- Extracts what the generator knows from the text of a dataset. -/
def extract (policy : RowPolicy) (fileName text : String) : Traced GenerationError Dataset :=
  match filledLines text with
  | [] => .throw (.malformedInput (.noHeader fileName))
  | (_, header) :: body =>
    let columns := cells header
    let rows := body.map fun (number, line) => (number, cells line)
    let ragged := rows.filter fun row => row.2.length ≠ columns.length
    match policy, ragged with
    | .reject, (number, row) :: _ =>
      .throw (.malformedInput (.raggedRow fileName number row.length columns.length))
    | _, _ => do
      .tell (extracted fileName columns.length rows.length ragged.length)
      return ⟨fileName, rows.length, columns, (rows.take previewLimit).map Prod.snd⟩

/-- Whether a kept row differs in width from the header. -/
def isRagged (dataset : Dataset) : Bool :=
  dataset.previewRows.any fun row => row.length ≠ dataset.columns.length

/-- The places between which the columns become features: up to the last column, and from the second when the first
is dropped.  Without columns they are at the beginning. -/
def featurePlaces (dataset : Dataset) (dropFirst : Bool) : Nat × Nat :=
  let stop := dataset.columns.length - 1
  (if dropFirst then min 1 stop else 0, stop)

/-- The columns that become features: all but the last, and not the first when it is dropped. -/
def featureColumns (dataset : Dataset) (dropFirst : Bool) : List String :=
  let (start, stop) := dataset.featurePlaces dropFirst
  (dataset.columns.take stop).drop start

/-- The column that is predicted. -/
def targetColumn (dataset : Dataset) : Option String :=
  dataset.columns.getLast?

end Dataset

end TableScript
