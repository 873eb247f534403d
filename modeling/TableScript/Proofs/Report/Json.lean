import TableScript.Proofs.Json.Decoding
import TableScript.Report.Dataset
import TableScript.Report.Script

/-!
# Reports as JSON

Nothing is lost in a report as JSON: a dataset is decoded from its report, and the parts of a script are found under
their keys, whatever characters are in the texts (`reportJson_faithful`).
-/

namespace TableScript

open Json (Readable Decoder maxDepth)

/-! ## Texts -/

namespace Json

theorem readable_strings (depth : Nat) (texts : List String) : Readable (depth + 1) (.strings texts) := by
  intro item hitem
  obtain ⟨text, -, rfl⟩ := List.mem_map.1 hitem
  cases depth <;> trivial

theorem readable_arrays (depth : Nat) (rows : List (List String)) :
    Readable (depth + 2) (.array (rows.map .strings)) := by
  intro row hrow
  obtain ⟨texts, -, rfl⟩ := List.mem_map.1 hrow
  exact readable_strings depth texts

theorem sorted_strings (texts : List String) : (Json.strings texts).sorted = .strings texts := by
  rw [strings, sorted, sortedItems_eq_map, List.map_map]
  rfl

theorem sorted_arrays (rows : List (List String)) :
    (Json.array (rows.map .strings)).sorted = .array (rows.map .strings) := by
  rw [sorted, sortedItems_eq_map, List.map_map]
  exact congrArg Json.array (List.map_congr_left fun row _ => sorted_strings row)

end Json

/-! ## Datasets -/

namespace Dataset

variable {dataset : Dataset}

theorem readable_toJson (h : dataset.rowCount < UInt64.size) : Readable maxDepth dataset.toJson := by
  have hcount : Int64.minValue.toInt ≤ (dataset.rowCount : Int) ∧ (dataset.rowCount : Int) < UInt64.size :=
    ⟨Int.le_trans (by decide) (Int.natCast_nonneg _), Int.ofNat_lt.2 h⟩
  show ∀ member ∈ (_ : List (String × Json)), Readable 126 member.2
  simp only [List.forall_mem_cons, List.not_mem_nil, false_implies, implies_true, and_true]
  exact ⟨trivial, hcount, Json.readable_strings 125 _, Json.readable_arrays 124 _⟩

/-- The members of a dataset in the order of their keys. -/
def orderedMembers (dataset : Dataset) : List (String × Json) := [
  ("columns", .strings dataset.columns),
  ("file_name", .string dataset.fileName),
  ("preview_rows", .array (dataset.previewRows.map .strings)),
  ("row_count", .natural dataset.rowCount)]

theorem sorted_toJson (dataset : Dataset) : dataset.toJson.sorted = .object dataset.orderedMembers := by
  obtain ⟨members, hmembers⟩ : ∃ members, dataset.toJson = .object members := ⟨_, rfl⟩
  have hsorted : Json.sortedMembers members = members := by
    cases hmembers
    simp only [Json.sortedMembers, Json.sorted_strings, Json.sorted_arrays]
    rfl
  have hperm : members.Perm dataset.orderedMembers := by
    cases hmembers
    exact ((List.Perm.swap _ _ _).cons _).trans ((List.Perm.swap _ _ _).trans (((List.Perm.swap _ _ _).cons _).cons _))
  have hkeys : ["columns", "file_name", "preview_rows", "row_count"].Pairwise (· < ·) := by decide
  have hordered : Dict.Ordered dataset.orderedMembers := hkeys
  rw [hmembers, Json.sorted, hsorted, ← Dict.ofList_perm hordered.nodup hperm.symm, hordered.ofList_eq]

theorem ofJson_rows (rows : List (List String)) :
    (Decoder.list (Decoder.list Decoder.text)).ofJson (.array (rows.map .strings)) = .ok rows :=
  Decoder.ofJson_list fun row _ => Decoder.ofJson_texts row

/-- A dataset is decoded from its members in the order of their keys. -/
theorem ofJson_sorted_toJson (h : dataset.rowCount < UInt64.size) :
    decoder.ofJson dataset.toJson.sorted = .ok dataset := by
  have hfields : List.Forall₂ (Decoder.DecodesField fields)
      dataset.orderedMembers
      [fun other => { other with columns := dataset.columns },
        fun other => { other with fileName := dataset.fileName },
        fun other => { other with previewRows := dataset.previewRows },
        fun other => { other with rowCount := dataset.rowCount }] := by
    refine .cons ⟨_, rfl, ?_⟩ (.cons ⟨_, rfl, ?_⟩ (.cons ⟨_, rfl, ?_⟩ (.cons ⟨_, rfl, ?_⟩ .nil)))
    · exact Decoder.ofJson_map (Decoder.ofJson_texts _) _
    · rfl
    · exact Decoder.ofJson_map (ofJson_rows _) _
    · exact Decoder.ofJson_map (Decoder.ofJson_natural "usize" h) _
  rw [sorted_toJson]
  have hcomplete : Decoder.Complete fields ["columns", "file_name", "preview_rows", "row_count"] := by
    unfold Decoder.Complete
    decide
  exact Decoder.ofJson_record "DatasetDescriptor" _ hfields hcomplete

/-- A dataset is read from its report. -/
theorem ofText_reportJson (h : dataset.rowCount < UInt64.size) : decoder.ofText dataset.reportJson = .ok dataset := by
  have hfields : List.Forall₂ (Decoder.ReadsField fields)
      [("file_name", .string dataset.fileName), ("row_count", .natural dataset.rowCount),
        ("columns", .strings dataset.columns), ("preview_rows", .array (dataset.previewRows.map .strings))]
      [fun other => { other with fileName := dataset.fileName },
        fun other => { other with rowCount := dataset.rowCount },
        fun other => { other with columns := dataset.columns },
        fun other => { other with previewRows := dataset.previewRows }] := by
    refine .cons ⟨_, rfl, ?_⟩ (.cons ⟨_, rfl, ?_⟩ (.cons ⟨_, rfl, ?_⟩ (.cons ⟨_, rfl, ?_⟩ .nil)))
    · exact (Decoder.readsMember_text _).map _
    · exact (Decoder.readsMember_natural "usize" h h).map _
    · refine (Decoder.readsMember_ofValue (Json.readable_strings 126 _) ?_).map _
      rw [Json.sorted_strings]
      exact Decoder.ofJson_texts dataset.columns
    · refine (Decoder.readsMember_ofValue (Json.readable_arrays 125 _) ?_).map _
      rw [Json.sorted_arrays]
      exact ofJson_rows dataset.previewRows
  have hkeys : ["file_name", "row_count", "columns", "preview_rows"].Nodup := by decide
  have hcomplete : Decoder.Complete fields ["file_name", "row_count", "columns", "preview_rows"] := by
    unfold Decoder.Complete
    decide
  have hread := Decoder.read_record "DatasetDescriptor" ⟨"", 0, [], []⟩ 0 hfields hkeys hcomplete []
  rw [List.append_nil] at hread
  exact Decoder.ofText_pretty hread

theorem read_reportJson (h : dataset.rowCount < UInt64.size) :
    Json.read dataset.reportJson = .ok dataset.toJson.sorted :=
  Json.read_pretty (readable_toJson h)

end Dataset

/-! ## Scripts -/

theorem Plan.ofJson_names (ids : List StageId) : Plan.decoder.ofJson (.strings (ids.map StageId.name)) = .ok ids := by
  have hid : ∀ id ∈ ids, StageId.decoder.ofJson (.string id.name) = .ok id := by
    rintro id -
    cases id <;> rfl
  rw [Json.strings, List.map_map]
  exact Decoder.ofJson_list hid

namespace Script

/-- The members of a script's report, whose keys are in order. -/
def reportMembers (fileName : String) (script : Script) : List (String × Json) := [
  ("file_name", .string fileName),
  ("fingerprint", .string script.fingerprint),
  ("missing_imports", .strings script.missingImports),
  ("produced_by", .strings (script.producedBy.map StageId.name)),
  ("text", .string script.text)]

theorem read_reportJson (fileName : String) (script : Script) :
    Json.read (script.reportJson fileName) = .ok (.object (script.reportMembers fileName)) := by
  have hreadable : Readable maxDepth (.object (script.reportMembers fileName)) := by
    show ∀ member ∈ reportMembers fileName script, Readable 126 member.2
    simp only [reportMembers, List.forall_mem_cons, List.not_mem_nil, false_implies, implies_true, and_true]
    exact ⟨trivial, trivial, Json.readable_strings 125 _, Json.readable_strings 125 _, trivial⟩
  have hmembers : Json.sortedMembers (script.reportMembers fileName) = script.reportMembers fileName := by
    simp only [reportMembers, Json.sortedMembers, Json.sorted_strings]
    rfl
  have hkeys : ["file_name", "fingerprint", "missing_imports", "produced_by", "text"].Pairwise (· < ·) := by decide
  have hordered : Dict.Ordered (script.reportMembers fileName) := hkeys
  have hread := Json.read_pretty hreadable
  rw [Json.sorted, hmembers, hordered.ofList_eq] at hread
  exact hread

end Script

/-! ## Nothing is lost -/

/-- A dataset is decoded from its report, by way of a value or at once, and the report of a script has the dataset's
name, the stages, the missing imports and the text under their keys, with the fingerprint of the text. -/
theorem reportJson_faithful :
    (∀ dataset : Dataset, dataset.rowCount < UInt64.size →
      (∃ value, Json.read dataset.reportJson = .ok value ∧ Dataset.decoder.ofJson value = .ok dataset) ∧
        Dataset.decoder.ofText dataset.reportJson = .ok dataset) ∧
    ∀ (fileName : String) (script : Script), ∃ members,
      Json.read (script.reportJson fileName) = .ok (.object members) ∧
      members.map Prod.fst = ["file_name", "fingerprint", "missing_imports", "produced_by", "text"] ∧
      Dict.get? "file_name" members = some (.string fileName) ∧
      Dict.get? "fingerprint" members = some (.string (Digest.hex script.text)) ∧
      (∃ value, Dict.get? "missing_imports" members = some value ∧
        (Decoder.list Decoder.text).ofJson value = .ok script.missingImports) ∧
      (∃ value, Dict.get? "produced_by" members = some value ∧ Plan.decoder.ofJson value = .ok script.producedBy) ∧
      Dict.get? "text" members = some (.string script.text) := by
  refine ⟨fun dataset h => ⟨⟨_, Dataset.read_reportJson h, Dataset.ofJson_sorted_toJson h⟩,
    Dataset.ofText_reportJson h⟩, fun fileName script => ?_⟩
  refine ⟨_, script.read_reportJson fileName, rfl, rfl, rfl, ⟨_, rfl, ?_⟩, ⟨_, rfl, ?_⟩, rfl⟩
  · exact Decoder.ofJson_texts script.missingImports
  · exact Plan.ofJson_names script.producedBy

/-- A dataset whose texts are hard to write. -/
def oddTexts : Dataset where
  fileName := "\"a\\b/c\u0001\t😀é.csv"
  rowCount := 18446744073709551615
  columns := ["", "\n", "\\u0041"]
  previewRows := [[], ["\u007f", "[]", "\x7b\"k\": 1\x7d"]]

theorem reportJson_of_oddTexts :
    oddTexts.rowCount < UInt64.size ∧ Dataset.decoder.ofText oddTexts.reportJson = .ok oddTexts := by
  have hcount : oddTexts.rowCount < UInt64.size := by decide
  exact ⟨hcount, (reportJson_faithful.1 oddTexts hcount).2⟩

end TableScript
