import Mathlib.Data.List.Forall2
import TableScript.Proofs.Dataset.Rows

/-!
# Written tables

Rows of cells are written with a comma between cells and a line end behind each row, with blanks around the cells, with
or without quotes around each, and with blank lines anywhere (`WrittenTable`).  A cell is read back from its text
(`WrittenCell.trim_eq`), a row from its line (`WrittenRow.cells_eq`) and the rows from the whole
(`WrittenTable.filledCells_eq`), so that extraction gives back the table (`extract_written_table`).
-/

namespace TableScript

namespace Dataset

open Text (NoneAround isBlankChar splitOn trimChars trimWhile)

variable {cell : String} {row : List String} {rows : List (List String)} {line text ending : List Char}

/-- Blanks within a line. -/
def IsPadding (cs : List Char) : Prop :=
  ∀ c ∈ cs, isBlankChar c = true ∧ c ≠ '\n'

instance (cs : List Char) : Decidable (IsPadding cs) :=
  decidable_of_iff (cs.all fun c => isBlankChar c && c ≠ '\n') (by simp [IsPadding])

/-- The texts of a cell: it stands as it is, if there is nothing around it that reading drops, or in quotes. -/
inductive WrittenCell (cell : String) : List Char → Prop where
  | bare {before after : List Char} (hbefore : IsPadding before) (hafter : IsPadding after)
      (hblanks : NoneAround isBlankChar cell.toList) (hquotes : NoneAround (· == '"') cell.toList) :
    WrittenCell cell (before ++ cell.toList ++ after)
  | quoted {before after : List Char} (hbefore : IsPadding before) (hafter : IsPadding after)
      (hquotes : NoneAround (· == '"') cell.toList) :
    WrittenCell cell (before ++ (['"'] ++ cell.toList ++ ['"']) ++ after)

/-- The lines of a row, none of which is blank. -/
structure WrittenRow (row : List String) (line : List Char) : Prop where
  plain : ∀ cell ∈ row, ',' ∉ cell.toList ∧ '\n' ∉ cell.toList
  written : ∃ texts, List.Forall₂ WrittenCell row texts ∧ line = [','].intercalate texts
  filled : line.all isBlankChar = false

/-- What ends a line. -/
def lineEndings : List (List Char) := [['\n'], ['\r', '\n']]

/-- The texts of a table: lines of rows and blank lines, of which the last may go without an ending. -/
inductive WrittenTable : List (List String) → List Char → Prop where
  | blankEnd {blank : List Char} (hblank : IsPadding blank) : WrittenTable [] blank
  | rowEnd {row : List String} {line : List Char} (hrow : WrittenRow row line) : WrittenTable [row] line
  | blankLine {rows : List (List String)} {blank ending rest : List Char} (hblank : IsPadding blank)
      (hending : ending ∈ lineEndings) (hrest : WrittenTable rows rest) :
    WrittenTable rows (blank ++ ending ++ rest)
  | rowLine {row : List String} {rows : List (List String)} {line ending rest : List Char} (hrow : WrittenRow row line)
      (hending : ending ∈ lineEndings) (hrest : WrittenTable rows rest) :
    WrittenTable (row :: rows) (line ++ ending ++ rest)

/-! ## Cells -/

theorem IsPadding.blank {cs : List Char} (h : IsPadding cs) : ∀ c ∈ cs, isBlankChar c = true :=
  fun c hc => (h c hc).1

/-- Quotes keep the blanks inside them. -/
theorem noneAround_quoted (cs : List Char) : NoneAround isBlankChar (['"'] ++ cs ++ ['"']) := by
  have hquote : ∀ c ∈ some '"', isBlankChar c = false := by
    intro c hc
    obtain rfl := Option.mem_some_iff.mp hc
    decide
  refine ⟨hquote, ?_⟩
  rw [List.getLast?_concat]
  exact hquote

/-- A cell is read back from its text. -/
theorem WrittenCell.trim_eq (h : WrittenCell cell text) : trimWhile (· == '"') (trimChars text) = cell.toList := by
  cases h with
  | bare hbefore hafter hblanks hquotes =>
    rw [trimChars, Text.trimWhile_around hbefore.blank hafter.blank hblanks, hquotes.trimWhile_eq_self]
  | quoted hbefore hafter hquotes =>
    have hquote : ∀ c ∈ ['"'], (c == '"') = true := List.forall_mem_singleton.mpr rfl
    rw [trimChars, Text.trimWhile_around hbefore.blank hafter.blank (noneAround_quoted _),
      Text.trimWhile_around hquote hquote hquotes]

/-- A character that is neither in a cell nor a quote nor padding is not in its text. -/
theorem WrittenCell.not_mem (h : WrittenCell cell text) {c : Char} (hcell : c ∉ cell.toList) (hquote : c ≠ '"')
    (hpadding : isBlankChar c = true → c = '\n') : c ∉ text := by
  have hnot {cs : List Char} (hcs : IsPadding cs) : c ∉ cs :=
    fun hc => (hcs c hc).2 (hpadding (hcs c hc).1)
  cases h with
  | bare hbefore hafter => simp [hnot hbefore, hnot hafter, hcell]
  | quoted hbefore hafter => simp [hnot hbefore, hnot hafter, hcell, hquote]

/-! ## Rows -/

theorem not_mem_of_forall₂ {texts : List (List Char)} (h : List.Forall₂ WrittenCell row texts) {c : Char}
    (hrow : ∀ cell ∈ row, c ∉ cell.toList) (hquote : c ≠ '"') (hpadding : isBlankChar c = true → c = '\n') :
    ∀ text ∈ texts, c ∉ text := by
  induction h with
  | nil => simp
  | cons hcell _ ih =>
    rw [List.forall_mem_cons] at hrow
    exact List.forall_mem_cons.mpr ⟨hcell.not_mem hrow.1 hquote hpadding, ih hrow.2⟩

theorem map_trim_of_forall₂ {texts : List (List Char)} (h : List.Forall₂ WrittenCell row texts) :
    (texts.map fun text => String.ofList (trimWhile (· == '"') (trimChars text))) = row := by
  induction h with
  | nil => rfl
  | cons hcell _ ih => rw [List.map_cons, hcell.trim_eq, String.ofList_toList, ih]

theorem WrittenRow.newline_not_mem (h : WrittenRow row line) : '\n' ∉ line := by
  obtain ⟨texts, hwritten, rfl⟩ := h.written
  have htexts := not_mem_of_forall₂ hwritten (fun cell hcell => (h.plain cell hcell).2) (by decide) fun _ => rfl
  intro hmem
  rcases Text.mem_intercalate hmem with hcomma | ⟨text, htext, hmem⟩
  · exact absurd hcomma (by decide)
  · exact htexts text htext hmem

/-- A row is read back from its line. -/
theorem WrittenRow.cells_eq (h : WrittenRow row line) : cells line = row := by
  obtain ⟨texts, hwritten, rfl⟩ := h.written
  have htexts := not_mem_of_forall₂ hwritten (fun cell hcell => (h.plain cell hcell).1) (by decide)
    (fun hblank => absurd hblank (by decide))
  have hne : texts ≠ [] := by
    rintro rfl
    exact absurd h.filled (by decide)
  rw [cells, Text.splitOn_intercalate htexts hne, map_trim_of_forall₂ hwritten]

/-! ## Tables -/

/-- A line is cut off at its ending. -/
theorem filledCells_append (hline : '\n' ∉ line) (hending : ending ∈ lineEndings) (rest : List Char) :
    filledCells (line ++ ending ++ rest) =
      if line.all isBlankChar then filledCells rest else cells line :: filledCells rest := by
  have hcases : ending = ['\n'] ∨ ending = ['\r', '\n'] := by simpa [lineEndings] using hending
  have hcells : filledCells (line ++ ending ++ rest) = filledCells line ++ filledCells rest := by
    rcases hcases with rfl | rfl
    · rw [List.append_assoc, List.singleton_append, filledCells_append_lineFeed]
    · calc filledCells (line ++ ['\r', '\n'] ++ rest)
        _ = filledCells ((line ++ ['\r']) ++ '\n' :: rest) := by simp
        _ = filledCells line ++ filledCells rest := by
          rw [filledCells_append_lineFeed, filledCells_carriageReturn hline]
  rw [hcells, filledCells_of_not_mem hline]
  split_ifs <;> rfl

theorem IsPadding.newline_not_mem {cs : List Char} (h : IsPadding cs) : '\n' ∉ cs :=
  fun hmem => (h '\n' hmem).2 rfl

theorem IsPadding.all_blank {cs : List Char} (h : IsPadding cs) : cs.all isBlankChar = true :=
  List.all_eq_true.mpr h.blank

/-- The rows of a table are read back from its text. -/
theorem WrittenTable.filledCells_eq (h : WrittenTable rows text) : filledCells text = rows := by
  induction h with
  | blankEnd hblank => rw [filledCells_of_not_mem hblank.newline_not_mem, if_pos hblank.all_blank]
  | rowEnd hrow =>
    rw [filledCells_of_not_mem hrow.newline_not_mem, hrow.filled, if_neg Bool.false_ne_true, hrow.cells_eq]
  | blankLine hblank hending _ ih =>
    rw [filledCells_append hblank.newline_not_mem hending, if_pos hblank.all_blank, ih]
  | rowLine hrow hending _ ih =>
    rw [filledCells_append hrow.newline_not_mem hending, hrow.filled, if_neg Bool.false_ne_true, hrow.cells_eq, ih]

end Dataset

open Dataset

/-- A table is extracted from any of its texts: the first row, the number of the others and the first five of them.
Rows of another width than the first are refused only where the policy rejects them. -/
theorem extract_written_table (fileName : String) (header : List String) (rows : List (List String)) (text : String)
    (h : WrittenTable (header :: rows) text.toList) :
    (extract .allow fileName text).outcome = .ok ⟨fileName, rows.length, header, rows.take 5⟩ ∧
    ((∀ row ∈ rows, row.length = header.length) →
      (extract .reject fileName text).outcome = .ok ⟨fileName, rows.length, header, rows.take 5⟩) ∧
    ((∃ row ∈ rows, row.length ≠ header.length) → ∃ line row,
      rows.find? (fun row => row.length ≠ header.length) = some row ∧
      (extract .reject fileName text).outcome =
        .error (.malformedInput (.raggedRow fileName line row.length header.length))) := by
  have hrows : (filledRows text).map Prod.snd = header :: rows :=
    (map_snd_filledRows text).trans h.filledCells_eq
  rw [List.map_eq_cons_iff] at hrows
  obtain ⟨⟨number, first⟩, body, hfilled, rfl, rfl⟩ := hrows
  have hdataset : (⟨fileName, body.length, first, (body.take previewLimit).map Prod.snd⟩ : Dataset) =
      ⟨fileName, (body.map Prod.snd).length, first, (body.map Prod.snd).take 5⟩ := by
    rw [List.length_map, ← List.map_take]
    rfl
  refine ⟨?_, fun heven => ?_, fun ⟨row, hrow, hwidth⟩ => ?_⟩
  · rw [outcome_extract_allow hfilled, hdataset]
  · rw [outcome_extract_reject hfilled fun row hrow => heven row.2 (List.mem_map_of_mem hrow), hdataset]
  · have hsome : ((body.map Prod.snd).find? fun row => row.length ≠ first.length).isSome := by
      rw [List.find?_isSome]
      exact ⟨row, hrow, by simpa using hwidth⟩
    rw [List.find?_map, Option.isSome_map] at hsome
    obtain ⟨⟨line, ragged⟩, hragged⟩ := Option.isSome_iff_exists.mp hsome
    refine ⟨line, ragged, ?_, outcome_extract_ragged hfilled hragged⟩
    rw [List.find?_map, hragged]
    rfl

/-- Quotes around blanks, blanks around quotes, blank lines and a carriage return at the end. -/
theorem extract_written_people :
    (extract .reject "people.csv" "\n  \"name\" , \"age\"\r\n\t\r\n\" bob \",42\r").outcome =
      .ok ⟨"people.csv", 1, ["name", "age"], [[" bob ", "42"]]⟩ := by
  have hname : WrittenCell "name" "  \"name\" ".toList :=
    @WrittenCell.quoted "name" [' ', ' '] [' '] (by decide) (by decide) (by decide)
  have hage : WrittenCell "age" " \"age\"".toList :=
    @WrittenCell.quoted "age" [' '] [] (by decide) (by decide) (by decide)
  have hbob : WrittenCell " bob " "\" bob \"".toList :=
    @WrittenCell.quoted " bob " [] [] (by decide) (by decide) (by decide)
  have hnumber : WrittenCell "42" "42\r".toList :=
    @WrittenCell.bare "42" [] ['\r'] (by decide) (by decide) (by decide) (by decide)
  have hheader : WrittenRow ["name", "age"] "  \"name\" , \"age\"".toList :=
    ⟨by decide, ⟨_, .cons hname (.cons hage .nil), by decide⟩, by decide⟩
  have hrow : WrittenRow [" bob ", "42"] "\" bob \",42\r".toList :=
    ⟨by decide, ⟨_, .cons hbob (.cons hnumber .nil), by decide⟩, by decide⟩
  have hblank : WrittenTable [[" bob ", "42"]] "\t\r\n\" bob \",42\r".toList :=
    @WrittenTable.blankLine _ ['\t'] ['\r', '\n'] _ (by decide) (by decide) (.rowEnd hrow)
  have htable : WrittenTable [["name", "age"], [" bob ", "42"]]
      "  \"name\" , \"age\"\r\n\t\r\n\" bob \",42\r".toList :=
    @WrittenTable.rowLine _ _ _ ['\r', '\n'] _ hheader (by decide) hblank
  have htext : WrittenTable [["name", "age"], [" bob ", "42"]]
      "\n  \"name\" , \"age\"\r\n\t\r\n\" bob \",42\r".toList :=
    @WrittenTable.blankLine _ [] ['\n'] _ (by decide) (by decide) htable
  exact (extract_written_table "people.csv" _ _ _ htext).2.1 (by decide)

/-- A row of one empty cell in quotes, under two columns. -/
example : (extract .reject "r.csv" "a,b\n\n\"\"\n").outcome =
    .error (.malformedInput (.raggedRow "r.csv" 3 1 2)) := by
  decide

end TableScript
