import TableScript.Proofs.Dataset.Rows

/-!
# Policies for ragged rows

The two policies extract the same from a text whose rows are as wide as its header.  From any other text with a header
one of them extracts all the same, and the other refuses the first line that is wider or narrower than the header,
under its number among all lines (`reject_refuses_first_ragged`).  That number is found by cutting the text at the
offending row (`exists_lineAt`).
-/

namespace TableScript

namespace Dataset

open Text (isBlankChar splitOn)

variable {fileName text : String} {line before cs : List Char} {number : Nat} {header row : List String}
  {body earlier later : List (Nat × List String)}

/-- The lines of a text that are not blank, as they stand between its line feeds. -/
def filledPieces (cs : List Char) : List (List Char) :=
  (splitOn '\n' cs).filter fun line => !line.all isBlankChar

/-- The lines that are not blank have as many cells as the first of them. -/
def EvenWidths (cs : List Char) : Prop :=
  ∀ header rows, filledPieces cs = header :: rows → ∀ row ∈ rows, (cells row).length = (cells header).length

/-- Some characters are a whole line of a text, behind others. -/
structure LineAt (cs before line : List Char) : Prop where
  plain : '\n' ∉ line
  begins : EndsLine before
  ends : ∃ after, cs = before ++ line ++ after ∧ ∀ c ∈ after.head?, c = '\n'

/-- The first line of a text, behind others, that has more or fewer cells than the header. -/
structure FirstRagged (cs before line header : List Char) : Prop where
  stands : LineAt cs before line
  filled : line.all isBlankChar = false
  width : (cells line).length ≠ (cells header).length
  isHeader : (filledPieces before).head? = some header
  even : EvenWidths before

theorem map_cells_filledPieces (cs : List Char) : (filledPieces cs).map cells = filledCells cs := by
  rw [← map_snd_rowsFrom 1, rowsFrom, map_snd_rowsOf, filledPieces]

theorem map_cells_filledPieces_eq_map_snd (start : Nat) (cs : List Char) :
    (filledPieces cs).map cells = (rowsFrom start cs).map Prod.snd := by
  rw [map_cells_filledPieces, map_snd_rowsFrom]

theorem length_filledPieces (start : Nat) (cs : List Char) : (filledPieces cs).length = (rowsFrom start cs).length := by
  have h := congrArg List.length (map_cells_filledPieces_eq_map_snd start cs)
  rwa [List.length_map, List.length_map] at h

theorem evenWidths_iff {start : Nat} (h : rowsFrom start cs = (number, header) :: body) :
    EvenWidths cs ↔ ∀ row ∈ body, row.2.length = header.length := by
  have hcells := map_cells_filledPieces_eq_map_snd start cs
  rw [h, List.map_cons, List.map_eq_cons_iff] at hcells
  obtain ⟨first, rows, hpieces, rfl, hrows⟩ := hcells
  have hwidths : (∀ row ∈ rows, (cells row).length = (cells first).length) ↔
      ∀ row ∈ body, row.2.length = (cells first).length := by
    rw [← List.forall_mem_map (f := cells) (P := fun row => row.length = (cells first).length), hrows,
      List.forall_mem_map]
  rw [← hwidths]
  constructor
  · intro heven
    exact heven first rows hpieces
  · intro hall header' rows' hpieces'
    obtain ⟨rfl, rfl⟩ := List.cons.inj (hpieces.symm.trans hpieces')
    exact hall

/-! ### Places of lines -/

theorem LineAt.append_left (h : LineAt cs before line) (front : List Char) :
    LineAt (front ++ '\n' :: cs) (front ++ '\n' :: before) line := by
  obtain ⟨after, rfl, hafter⟩ := h.ends
  refine ⟨h.plain, ?_, after, by simp, hafter⟩
  intro c hc
  rcases h.begins.eq_nil_or with rfl | ⟨lines, rfl⟩
  · simpa [eq_comm] using hc
  · rw [← List.cons_append, ← List.append_assoc, List.getLast?_concat] at hc
    exact (Option.mem_some_iff.1 hc).symm

/-- A row is that of the first line or stands behind it. -/
private theorem first_or_behind {start : Nat} {rest : List (Nat × List String)}
    (h : (if line.all isBlankChar then [] else [(start, cells line)]) ++ rest = earlier ++ (number, row) :: later) :
    line.all isBlankChar = false ∧ cells line = row ∧ number = start ∧ earlier = [] ∨
      ∃ more, rest = more ++ (number, row) :: later ∧
        earlier = (if line.all isBlankChar then [] else [(start, cells line)]) ++ more := by
  cases hblank : line.all isBlankChar with
  | true =>
    rw [hblank] at h
    exact Or.inr ⟨earlier, h, rfl⟩
  | false =>
    rw [hblank] at h
    cases earlier with
    | nil =>
      obtain ⟨hfirst, -⟩ := List.cons.inj h
      obtain ⟨rfl, rfl⟩ := Prod.mk.inj hfirst
      exact Or.inl ⟨rfl, rfl, rfl, rfl⟩
    | cons first more =>
      obtain ⟨rfl, hrest⟩ := List.cons.inj h
      exact Or.inr ⟨more, hrest, rfl⟩

/-- Every row is that of a line, and is numbered by the line feeds before it. -/
theorem exists_lineAt {start : Nat} (h : rowsFrom start cs = earlier ++ (number, row) :: later) :
    ∃ before line, LineAt cs before line ∧ line.all isBlankChar = false ∧ cells line = row ∧
      number = start + before.count '\n' ∧ rowsFrom start before = earlier := by
  induction cs using Text.pieces_induction '\n' generalizing start earlier with
  | last piece hpiece =>
    rw [rowsFrom_of_not_mem hpiece, ← List.append_nil (ite _ _ _)] at h
    rcases first_or_behind h with ⟨hfilled, hcells, rfl, rfl⟩ | ⟨more, hmore, -⟩
    · exact ⟨[], piece, ⟨hpiece, by simp [EndsLine], [], by simp, by simp⟩, hfilled, hcells, rfl, rfl⟩
    · simp at hmore
  | cons piece rest hpiece ih =>
    have hcount : piece.count '\n' = 0 := List.count_eq_zero_of_not_mem hpiece
    rw [rowsFrom_append, rowsFrom_of_not_mem hpiece, hcount] at h
    rcases first_or_behind h with ⟨hfilled, hcells, rfl, rfl⟩ | ⟨more, hmore, rfl⟩
    · exact ⟨[], piece, ⟨hpiece, by simp [EndsLine], '\n' :: rest, by simp, by simp⟩, hfilled, hcells, rfl, rfl⟩
    · obtain ⟨before, line, hat, hfilled, hcells, rfl, hbefore⟩ := ih hmore
      refine ⟨piece ++ '\n' :: before, line, hat.append_left piece, hfilled, hcells, ?_, ?_⟩
      · rw [List.count_append, hcount, List.count_cons_self]
        omega
      · rw [rowsFrom_append, rowsFrom_of_not_mem hpiece, hcount, hbefore]

/-- A text with uneven rows has a first ragged line, which stands where the first row of another width is found. -/
theorem exists_firstRagged (h : rowsFrom 1 cs = (number, header) :: body) (huneven : ¬EvenWidths cs) :
    ∃ before line first, FirstRagged cs before line first ∧ cells first = header ∧
      body.find? (fun row => row.2.length ≠ header.length) = some (before.count '\n' + 1, cells line) := by
  have hsome : (body.find? fun row => row.2.length ≠ header.length).isSome := by
    rw [evenWidths_iff h] at huneven
    push Not at huneven
    obtain ⟨row, hrow, hwidth⟩ := huneven
    rw [List.find?_isSome]
    exact ⟨row, hrow, by simpa using hwidth⟩
  obtain ⟨⟨place, row⟩, hfind⟩ := Option.isSome_iff_exists.1 hsome
  obtain ⟨hwidth, even, later, rfl, heven⟩ := List.find?_eq_some_iff_append.1 hfind
  have hplace : rowsFrom 1 cs = ((number, header) :: even) ++ (place, row) :: later := h
  obtain ⟨before, line, hat, hfilled, rfl, rfl, hbefore⟩ := exists_lineAt hplace
  have hcells := map_cells_filledPieces_eq_map_snd 1 before
  rw [hbefore, List.map_cons, List.map_eq_cons_iff] at hcells
  obtain ⟨first, rows, hpieces, rfl, -⟩ := hcells
  have hevenBefore : EvenWidths before := by
    rw [evenWidths_iff hbefore]
    intro row hrow
    simpa using heven row hrow
  refine ⟨before, line, first, ⟨hat, hfilled, by simpa using hwidth, by rw [hpieces, List.head?_cons], hevenBefore⟩,
    rfl, ?_⟩
  rw [hfind, Nat.add_comm]

/-! ### Outcomes -/

theorem outcome_extract_nil (policy : RowPolicy) (h : rowsFrom 1 text.toList = []) :
    (extract policy fileName text).outcome = .error (.malformedInput (.noHeader fileName)) := by
  rw [← filledRows_eq_rowsFrom] at h
  have hlines : filledLines text = [] := List.map_eq_nil_iff.1 h
  simp only [extract, hlines]
  rfl

theorem outcome_allow_eq_ok_iff {dataset : Dataset} : (extract .allow fileName text).outcome = .ok dataset ↔
    ∃ number header body, rowsFrom 1 text.toList = (number, header) :: body ∧
      dataset = ⟨fileName, body.length, header, (body.take previewLimit).map Prod.snd⟩ := by
  cases hrows : rowsFrom 1 text.toList with
  | nil => simp [outcome_extract_nil .allow hrows]
  | cons first body =>
    obtain ⟨number, header⟩ := first
    rw [← filledRows_eq_rowsFrom] at hrows
    rw [outcome_extract_allow hrows, Except.ok.injEq]
    constructor
    · rintro rfl
      exact ⟨number, header, body, rfl, rfl⟩
    · rintro ⟨_, _, _, he, rfl⟩
      obtain ⟨hfirst, rfl⟩ := List.cons.inj he
      obtain ⟨-, rfl⟩ := Prod.mk.inj hfirst
      rfl

theorem outcome_allow_eq_error_iff {error : GenerationError} :
    (extract .allow fileName text).outcome = .error error ↔
      filledPieces text.toList = [] ∧ error = .malformedInput (.noHeader fileName) := by
  have hpieces : filledPieces text.toList = [] ↔ rowsFrom 1 text.toList = [] := by
    rw [← List.length_eq_zero_iff, length_filledPieces 1, List.length_eq_zero_iff]
  rw [hpieces]
  cases hrows : rowsFrom 1 text.toList with
  | nil => simp [outcome_extract_nil .allow hrows, eq_comm]
  | cons first body =>
    rw [← filledRows_eq_rowsFrom] at hrows
    simp [outcome_extract_allow hrows]

/-- Rows that are rejected stand in a text that has a header and uneven rows. -/
theorem outcome_reject_of_uneven {dataset : Dataset} (h : (extract .allow fileName text).outcome = .ok dataset)
    (huneven : ¬EvenWidths text.toList) : ∃ before line header, FirstRagged text.toList before line header ∧
      (extract .reject fileName text).outcome = .error (.malformedInput
        (.raggedRow fileName (before.count '\n' + 1) (cells line).length (cells header).length)) := by
  obtain ⟨number, header, body, hrows, -⟩ := outcome_allow_eq_ok_iff.1 h
  obtain ⟨before, line, first, hfirst, rfl, hfind⟩ := exists_firstRagged hrows huneven
  rw [← filledRows_eq_rowsFrom] at hrows
  exact ⟨before, line, first, hfirst, outcome_extract_ragged hrows hfind⟩

theorem outcome_reject_of_even {dataset : Dataset} (h : (extract .allow fileName text).outcome = .ok dataset)
    (heven : EvenWidths text.toList) : (extract .reject fileName text).outcome = .ok dataset := by
  obtain ⟨number, header, body, hrows, rfl⟩ := outcome_allow_eq_ok_iff.1 h
  rw [evenWidths_iff hrows] at heven
  rw [← filledRows_eq_rowsFrom] at hrows
  exact outcome_extract_reject hrows heven

theorem outcome_reject_eq_ok_iff {dataset : Dataset} : (extract .reject fileName text).outcome = .ok dataset ↔
    (extract .allow fileName text).outcome = .ok dataset ∧ EvenWidths text.toList := by
  refine ⟨fun h => ?_, fun ⟨hallow, heven⟩ => outcome_reject_of_even hallow heven⟩
  cases hrows : rowsFrom 1 text.toList with
  | nil => simp [outcome_extract_nil .reject hrows] at h
  | cons first body =>
    have hallow : (extract .allow fileName text).outcome =
        .ok ⟨fileName, body.length, first.2, (body.take previewLimit).map Prod.snd⟩ :=
      outcome_allow_eq_ok_iff.2 ⟨first.1, first.2, body, hrows, rfl⟩
    by_cases heven : EvenWidths text.toList
    · rw [outcome_reject_of_even hallow heven, Except.ok.injEq] at h
      exact ⟨h ▸ hallow, heven⟩
    · obtain ⟨before, line, header, -, herror⟩ := outcome_reject_of_uneven hallow heven
      rw [herror] at h
      exact absurd h (by simp)

theorem counts_of_outcome {policy : RowPolicy} {dataset : Dataset}
    (h : (extract policy fileName text).outcome = .ok dataset) :
    dataset.rowCount = (filledPieces text.toList).length - 1 ∧ dataset.previewRows.length = min 5 dataset.rowCount := by
  have hallow : (extract .allow fileName text).outcome = .ok dataset := by
    cases policy with
    | allow => exact h
    | reject => exact (outcome_reject_eq_ok_iff.1 h).1
  obtain ⟨number, header, body, hrows, rfl⟩ := outcome_allow_eq_ok_iff.1 hallow
  rw [length_filledPieces 1, hrows]
  exact ⟨rfl, by rw [List.length_map, List.length_take, previewLimit]⟩

theorem isRagged_of_outcome_reject {dataset : Dataset} (h : (extract .reject fileName text).outcome = .ok dataset) :
    dataset.isRagged = false := by
  obtain ⟨hallow, heven⟩ := outcome_reject_eq_ok_iff.1 h
  obtain ⟨number, header, body, hrows, rfl⟩ := outcome_allow_eq_ok_iff.1 hallow
  rw [evenWidths_iff hrows] at heven
  rw [isRagged, List.any_eq_false]
  intro row hrow
  obtain ⟨kept, hkept, rfl⟩ := List.mem_map.1 hrow
  simpa using heven kept (List.mem_of_mem_take hkept)

end Dataset

open Dataset

/-- The policies differ on ragged rows only.  Extraction that allows them fails exactly where there is no line to be
the header; extraction that rejects them gives the same dataset where all rows are as wide as the header, and else
refuses the first line that is not, under its number among all lines.  Every dataset that is extracted counts all its
rows and keeps the first five. -/
theorem reject_refuses_first_ragged (fileName text : String) :
    (∀ error, (extract .allow fileName text).outcome = .error error ↔
      filledPieces text.toList = [] ∧ error = .malformedInput (.noHeader fileName)) ∧
    (∀ dataset, (extract .reject fileName text).outcome = .ok dataset ↔
      (extract .allow fileName text).outcome = .ok dataset ∧ EvenWidths text.toList) ∧
    (∀ dataset, (extract .allow fileName text).outcome = .ok dataset → ¬EvenWidths text.toList →
      ∃ before line header, FirstRagged text.toList before line header ∧
        (extract .reject fileName text).outcome = .error (.malformedInput
          (.raggedRow fileName (before.count '\n' + 1) (cells line).length (cells header).length))) ∧
    (∀ policy dataset, (extract policy fileName text).outcome = .ok dataset →
      dataset.rowCount = (filledPieces text.toList).length - 1 ∧
      dataset.previewRows.length = min 5 dataset.rowCount) ∧
    ∀ dataset, (extract .reject fileName text).outcome = .ok dataset → dataset.isRagged = false := by
  refine ⟨?_, ?_, ?_, ?_, ?_⟩
  · intro error
    exact outcome_allow_eq_error_iff
  · intro dataset
    exact outcome_reject_eq_ok_iff
  · intro dataset hallow huneven
    exact outcome_reject_of_uneven hallow huneven
  · intro policy dataset hdataset
    exact counts_of_outcome hdataset
  · intro dataset hdataset
    exact isRagged_of_outcome_reject hdataset

/-- Blank lines count: the second row is at fault, and it is on the fifth line. -/
theorem reject_refuses_fifth_line :
    let text := "a,b\n\n1,2\n \r\n3\n"
    ¬EvenWidths text.toList ∧ ∃ before line header, FirstRagged text.toList before line header ∧
      before.count '\n' + 1 = 5 ∧
      (extract .reject "r.csv" text).outcome = .error (.malformedInput (.raggedRow "r.csv" 5 1 2)) := by
  intro text
  have hallow : (extract .allow "r.csv" text).outcome = .ok ⟨"r.csv", 2, ["a", "b"], [["1", "2"], ["3"]]⟩ := by
    decide
  have hreject : (extract .reject "r.csv" text).outcome = .error (.malformedInput (.raggedRow "r.csv" 5 1 2)) := by
    decide
  have huneven : ¬EvenWidths text.toList := by
    intro heven
    exact absurd (heven ['a', ',', 'b'] [['1', ',', '2'], ['3']] (by decide) ['3'] (by decide)) (by decide)
  obtain ⟨before, line, header, hfirst, herror⟩ := (reject_refuses_first_ragged "r.csv" text).2.2.1 _ hallow huneven
  rw [hreject] at herror
  simp only [Except.error.injEq, GenerationError.malformedInput.injEq, DatasetFault.raggedRow.injEq] at herror
  exact ⟨huneven, before, line, header, hfirst, herror.2.1.symm, hreject⟩

end TableScript
