import TableScript.Dataset.Encoding
import TableScript.Grid
import TableScript.Json.Printer

/-!
# Reports on datasets

A few summary lines with the kept rows as a table, or all of it as JSON.
-/

namespace TableScript.Dataset

/-- The lines above the table. -/
def summary (dataset : Dataset) : List String :=
  ["Dataset: " ++ dataset.fileName, "Rows: " ++ Text.decimal dataset.rowCount,
    "Columns: " ++ Text.decimal dataset.columns.length] ++
  dataset.targetColumn.toList.map ("Target: " ++ ·) ++
  if dataset.isRagged then ["Warning: some preview rows differ in width from the header"] else []

/-- The summary, and the kept rows under the header unless there are no columns. -/
def reportText (dataset : Dataset) : String :=
  let head := String.join (dataset.summary.map (· ++ "\n"))
  if dataset.columns.isEmpty then head
  else head ++ "\n" ++ Grid.text dataset.columns dataset.previewRows ++ "\n"

def reportJson (dataset : Dataset) : String :=
  dataset.toJson.pretty

end TableScript.Dataset
