import TableScript.Proofs.Dataset.Extraction

/-!
# Rows

The rows of a text are those of the pieces between its line feeds (`rowsOf_lines`), so a line feed anywhere parts the
rows before it from those after it, which are counted on from there (`rowsFrom_append`).  Extraction that allows all
widths looks at the cells of the rows only (`extract_allow`).
-/

namespace TableScript.Dataset

open Text (dropCarriageReturn isBlankChar lines splitOn)

variable {fileName : String} {line before : List Char}

/-- The rows of the pieces between the line feeds of a text. -/
def rowsFrom (start : Nat) (cs : List Char) : List (Nat × List String) :=
  rowsOf start (splitOn '\n' cs)

theorem rowsOf_append (start : Nat) (before after : List (List Char)) :
    rowsOf start (before ++ after) = rowsOf start before ++ rowsOf (start + before.length) after := by
  induction before generalizing start with
  | nil => rfl
  | cons line before ih =>
    have hlength : start + (line :: before).length = start + 1 + before.length := by
      rw [List.length_cons]
      omega
    rw [List.cons_append, rowsOf, rowsOf, ih, hlength]
    split_ifs <;> rfl

/-- A line feed parts the rows of a text, and those behind it are counted on. -/
theorem rowsFrom_append (start : Nat) (cs rest : List Char) :
    rowsFrom start (cs ++ '\n' :: rest) = rowsFrom start cs ++ rowsFrom (start + (cs.count '\n' + 1)) rest := by
  rw [rowsFrom, Text.splitOn_append_cons_append, rowsOf_append, Text.length_splitOn]
  rfl

theorem rowsFrom_of_not_mem (h : '\n' ∉ line) (start : Nat) :
    rowsFrom start line = if line.all isBlankChar then [] else [(start, cells line)] := by
  rw [rowsFrom, Text.splitOn_of_not_mem h, rowsOf, rowsOf]

theorem rowsOf_dropCarriageReturn (start : Nat) (line : List Char) (lines : List (List Char)) :
    rowsOf start (dropCarriageReturn line :: lines) = rowsOf start (line :: lines) := by
  rw [rowsOf, rowsOf, all_isBlankChar_dropCarriageReturn, cells_dropCarriageReturn]

/-- What is dropped from the lines of a text does not show in its rows. -/
theorem rowsOf_lines (start : Nat) (cs : List Char) : rowsOf start (lines cs) = rowsFrom start cs := by
  induction cs using Text.pieces_induction '\n' generalizing start with
  | last line h =>
    rw [Text.lines_of_not_mem h, rowsFrom_of_not_mem h]
    by_cases hnil : line = []
    · rw [if_pos hnil, hnil]
      rfl
    · rw [if_neg hnil, rowsOf, rowsOf]
  | cons line rest h ih =>
    rw [Text.lines_append_cons h, rowsOf_dropCarriageReturn, rowsFrom, Text.splitOn_append_cons h, rowsOf, rowsOf, ih]
    rfl

theorem filledRows_eq_rowsFrom (text : String) : filledRows text = rowsFrom 1 text.toList := by
  rw [filledRows_eq_rowsOf, rowsOf_lines]

/-- The rows of the lines that are not blank. -/
def filledCells (cs : List Char) : List (List String) :=
  ((lines cs).filter fun line => !line.all isBlankChar).map cells

theorem map_snd_rowsFrom (start : Nat) (cs : List Char) : (rowsFrom start cs).map Prod.snd = filledCells cs := by
  rw [← rowsOf_lines, map_snd_rowsOf, filledCells]

/-! ### Cells -/

theorem filledCells_append_lineFeed (cs rest : List Char) :
    filledCells (cs ++ '\n' :: rest) = filledCells cs ++ filledCells rest := by
  rw [← map_snd_rowsFrom 1, rowsFrom_append, List.map_append, map_snd_rowsFrom, map_snd_rowsFrom]

theorem filledCells_of_not_mem (h : '\n' ∉ line) :
    filledCells line = if line.all isBlankChar then [] else [cells line] := by
  rw [← map_snd_rowsFrom 1, rowsFrom_of_not_mem h]
  split_ifs <;> rfl

/-- A carriage return at the end of a line does not show. -/
theorem filledCells_carriageReturn (h : '\n' ∉ line) : filledCells (line ++ ['\r']) = filledCells line := by
  have hreturn : '\n' ∉ line ++ ['\r'] := List.not_mem_append h (by decide)
  rw [filledCells_of_not_mem hreturn, filledCells_of_not_mem h, ← all_isBlankChar_dropCarriageReturn,
    ← cells_dropCarriageReturn, Text.dropCarriageReturn_append]

/-- A line may begin behind these characters. -/
def EndsLine (before : List Char) : Prop :=
  ∀ c ∈ before.getLast?, c = '\n'

theorem EndsLine.eq_nil_or (h : EndsLine before) : before = [] ∨ ∃ lines, before = lines ++ ['\n'] := by
  cases hlast : before.getLast? with
  | none => exact Or.inl (List.getLast?_eq_none_iff.1 hlast)
  | some c =>
    obtain ⟨lines, rfl⟩ := List.getLast?_eq_some_iff.1 hlast
    rw [h c hlast]
    exact Or.inr ⟨lines, rfl⟩

/-! ### Extraction -/

/-- Where all widths are allowed, extraction looks at the cells of the rows only. -/
theorem extract_allow (fileName text : String) : extract .allow fileName text =
    match filledCells text.toList with
    | [] => .throw (.malformedInput (.noHeader fileName))
    | header :: rows => do
      .tell (extracted fileName header.length rows.length (rows.filter fun row => row.length ≠ header.length).length)
      return ⟨fileName, rows.length, header, rows.take previewLimit⟩ := by
  have hcells : filledCells text.toList = (filledRows text).map Prod.snd := (map_snd_filledRows text).symm
  rw [hcells, filledRows, extract]
  cases filledLines text with
  | nil => rfl
  | cons first body =>
    obtain ⟨number, header⟩ := first
    simp only [List.map_cons, List.map_map, List.length_map, List.map_take, List.filter_map]
    rfl

theorem extract_allow_congr {s t : String} (h : filledCells s.toList = filledCells t.toList) :
    extract .allow fileName s = extract .allow fileName t := by
  rw [extract_allow, extract_allow, h]

end TableScript.Dataset
