import TableScript.Dataset
import TableScript.Proofs.Text.Lines
import TableScript.Proofs.Text.Trimming

/-!
# Extraction of datasets

What is extracted from a text is told by its rows, that is by the cells of the lines that are not blank: the first row
names the columns, and the policy for the others looks at their widths only (`outcome_extract_allow`,
`outcome_extract_reject`, `outcome_extract_ragged`).  A carriage return at the end of a line does not show in its cells
(`cells_dropCarriageReturn`).
-/

namespace TableScript.Dataset

open Text (isBlankChar dropCarriageReturn splitOn trimChars trimWhile)

variable {fileName text : String} {header : List String} {number : Nat} {body : List (Nat × List String)}

/-- The rows of a text, with the numbers of their lines. -/
def filledRows (text : String) : List (Nat × List String) :=
  (filledLines text).map fun (number, line) => (number, cells line)

/-- The rows of the lines that are not blank, with the numbers of these lines counted from `start`. -/
def rowsOf (start : Nat) : List (List Char) → List (Nat × List String)
  | [] => []
  | line :: lines =>
    if line.all isBlankChar then rowsOf (start + 1) lines else (start, cells line) :: rowsOf (start + 1) lines

theorem filledRows_eq_rowsOf (text : String) : filledRows text = rowsOf 1 (Text.lines text.toList) := by
  rw [filledRows, filledLines]
  generalize 1 = start
  induction Text.lines text.toList generalizing start with
  | nil => rfl
  | cons line lines ih =>
    rw [List.zipIdx_cons, List.filterMap_cons, rowsOf, ← ih]
    dsimp only
    cases line.all isBlankChar <;> rfl

theorem map_snd_rowsOf (start : Nat) (lines : List (List Char)) :
    (rowsOf start lines).map Prod.snd = (lines.filter fun line => !line.all isBlankChar).map cells := by
  induction lines generalizing start with
  | nil => rfl
  | cons line lines ih =>
    rw [rowsOf, List.filter_cons]
    cases line.all isBlankChar with
    | true => exact ih (start + 1)
    | false => exact congrArg (cells line :: ·) (ih (start + 1))

/-- The rows are the cells of the lines that are not blank. -/
theorem map_snd_filledRows (text : String) : (filledRows text).map Prod.snd =
    ((Text.lines text.toList).filter fun line => !line.all isBlankChar).map cells := by
  rw [filledRows_eq_rowsOf, map_snd_rowsOf]

/-! ## Policies -/

theorem filledLines_of_filledRows (h : filledRows text = (number, header) :: body) :
    ∃ line lines, filledLines text = (number, line) :: lines ∧ cells line = header ∧
      (lines.map fun (number, line) => (number, cells line)) = body := by
  rw [filledRows, List.map_eq_cons_iff] at h
  obtain ⟨⟨first, line⟩, lines, hlines, hfirst, hbody⟩ := h
  obtain ⟨rfl, rfl⟩ := Prod.mk.inj hfirst
  exact ⟨line, lines, hlines, rfl, hbody⟩

theorem outcome_extract_allow (h : filledRows text = (number, header) :: body) :
    (extract .allow fileName text).outcome =
      .ok ⟨fileName, body.length, header, (body.take previewLimit).map Prod.snd⟩ := by
  obtain ⟨line, lines, hlines, rfl, rfl⟩ := filledLines_of_filledRows h
  simp only [extract, hlines]
  rfl

theorem outcome_extract_reject (h : filledRows text = (number, header) :: body)
    (heven : ∀ row ∈ body, row.2.length = header.length) :
    (extract .reject fileName text).outcome =
      .ok ⟨fileName, body.length, header, (body.take previewLimit).map Prod.snd⟩ := by
  obtain ⟨line, lines, hlines, rfl, rfl⟩ := filledLines_of_filledRows h
  have hnone : (lines.map fun (number, line) => (number, cells line)).filter
      (fun row => row.2.length ≠ (cells line).length) = [] := by
    rw [List.filter_eq_nil_iff]
    intro row hrow
    simp [heven row hrow]
  simp only [extract, hlines, hnone]
  rfl

/-- The first row of another width than the header is refused. -/
theorem outcome_extract_ragged (h : filledRows text = (number, header) :: body) {line : Nat} {row : List String}
    (hfirst : body.find? (fun row => row.2.length ≠ header.length) = some (line, row)) :
    (extract .reject fileName text).outcome =
      .error (.malformedInput (.raggedRow fileName line row.length header.length)) := by
  obtain ⟨first, lines, hlines, rfl, rfl⟩ := filledLines_of_filledRows h
  rw [← List.head?_filter, List.head?_eq_some_iff] at hfirst
  obtain ⟨more, hragged⟩ := hfirst
  simp only [extract, hlines, hragged]
  rfl

/-! ## Cells -/

theorem all_isBlankChar_dropCarriageReturn (line : List Char) :
    (dropCarriageReturn line).all isBlankChar = line.all isBlankChar := by
  have hblank : isBlankChar '\r' = true := by decide
  rcases Text.dropCarriageReturn_eq_or line with h | h
  · rw [h]
  · conv_rhs => rw [h, List.all_append]
    simp [hblank]

theorem cells_dropCarriageReturn (line : List Char) : cells (dropCarriageReturn line) = cells line := by
  rcases Text.dropCarriageReturn_eq_or line with h | h
  · rw [h]
  -- the carriage return belongs to the last cell, and is a blank behind it
  have hcomma : ',' ∉ ['\r'] := by decide
  have hblank : ∀ c ∈ ['\r'], isBlankChar c = true := List.forall_mem_singleton.mpr rfl
  obtain ⟨pieces, last, hpieces, hafter⟩ := Text.exists_splitOn_append hcomma (dropCarriageReturn line)
  conv_rhs => rw [h]
  rw [cells, cells, hpieces, hafter]
  simp only [List.map_append, List.map_cons, trimChars, Text.trimWhile_append_right hblank]

end TableScript.Dataset
