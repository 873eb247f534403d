import TableScript.Dataset
import TableScript.Json.Decoder

/-!
# Datasets as JSON

An object with the members `file_name`, `row_count`, `columns` and `preview_rows`, in this order.
-/

namespace TableScript

open Json (Decoder)

namespace Dataset

def fields : List (Decoder.Field Dataset) := [
  { key := "file_name"
    required := true
    decoder := Decoder.text.map fun value dataset => { dataset with fileName := value } },
  { key := "row_count"
    required := true
    decoder := (Decoder.natural "usize" UInt64.size).map fun value dataset => { dataset with rowCount := value } },
  { key := "columns"
    required := true
    decoder := (Decoder.list Decoder.text).map fun value dataset => { dataset with columns := value } },
  { key := "preview_rows"
    required := true
    decoder := (Decoder.list (Decoder.list Decoder.text)).map fun value dataset =>
      { dataset with previewRows := value } }]

def decoder : Decoder Dataset :=
  Decoder.record "DatasetDescriptor" fields ⟨"", 0, [], []⟩

def toJson (dataset : Dataset) : Json :=
  .object [
    ("file_name", .string dataset.fileName),
    ("row_count", .natural dataset.rowCount),
    ("columns", .strings dataset.columns),
    ("preview_rows", .array (dataset.previewRows.map .strings))]

end Dataset

end TableScript
