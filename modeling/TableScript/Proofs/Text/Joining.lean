import TableScript.Text.Split

/-!
# Joined texts

Cutting a text at a character undoes joining with it (`splitOn_intercalate`), and cutting it at its blank lines
gives back the paragraphs that have been joined with blank lines between them (`paragraphs_joinBlocks`).
-/

namespace TableScript.Text

theorem flatMap_intercalate {α β : Type} (f : α → List β) (sep : List α) (pieces : List (List α)) :
    (sep.intercalate pieces).flatMap f = (sep.flatMap f).intercalate (pieces.map (·.flatMap f)) := by
  induction pieces with
  | nil => rfl
  | cons piece pieces ih =>
    cases pieces with
    | nil => simp
    | cons next pieces =>
      simp only [List.map_cons, List.intercalate_cons_cons, List.flatMap_append] at ih ⊢
      rw [ih]

theorem mem_intercalate {α : Type} {sep : List α} {pieces : List (List α)} {x : α}
    (h : x ∈ sep.intercalate pieces) : x ∈ sep ∨ ∃ piece ∈ pieces, x ∈ piece := by
  induction pieces with
  | nil => simp at h
  | cons piece pieces ih =>
    cases pieces with
    | nil => exact Or.inr ⟨piece, by simp, by simpa using h⟩
    | cons next pieces =>
      simp only [List.intercalate_cons_cons, List.mem_append, or_assoc] at h
      rcases h with h | h | h
      · exact Or.inr ⟨piece, by simp, h⟩
      · exact Or.inl h
      · exact (ih h).imp id fun ⟨other, ho, hx⟩ => ⟨other, by simp [ho], hx⟩

theorem mem_intercalate_of_mem {α : Type} {sep piece : List α} {pieces : List (List α)} {x : α} (hp : piece ∈ pieces)
    (hx : x ∈ piece) : x ∈ sep.intercalate pieces := by
  induction pieces with
  | nil => cases hp
  | cons first pieces ih =>
    cases pieces with
    | nil =>
      obtain rfl := List.mem_singleton.1 hp
      simpa using hx
    | cons next pieces =>
      rw [List.intercalate_cons_cons, List.mem_append, List.mem_append]
      rcases List.mem_cons.1 hp with rfl | hp
      · exact Or.inl (Or.inl hx)
      · exact Or.inr (ih hp)

/-- Joined pieces begin with the first of them. -/
theorem exists_intercalate_cons {α : Type} (sep piece : List α) (pieces : List (List α)) :
    ∃ more, sep.intercalate (piece :: pieces) = piece ++ more ∧
      ∀ x ∈ more, x ∈ sep ∨ ∃ other ∈ pieces, x ∈ other := by
  cases pieces with
  | nil => exact ⟨[], by simp, by simp⟩
  | cons next pieces =>
    refine ⟨sep ++ sep.intercalate (next :: pieces), by simp, fun x hx => ?_⟩
    rcases List.mem_append.1 hx with hx | hx
    · exact Or.inl hx
    · exact mem_intercalate hx

/-- Joining two lists of pieces. -/
theorem intercalate_append {α : Type} (sep : List α) {pieces more : List (List α)} (hp : pieces ≠ [])
    (hm : more ≠ []) : sep.intercalate (pieces ++ more) = sep.intercalate pieces ++ sep ++ sep.intercalate more := by
  induction pieces with
  | nil => exact absurd rfl hp
  | cons piece pieces ih =>
    cases pieces with
    | nil =>
      rw [List.singleton_append, List.intercalate_cons_of_ne_nil hm, List.intercalate_singleton]
    | cons next pieces =>
      rw [List.cons_append, List.cons_append, List.intercalate_cons_cons, List.intercalate_cons_cons,
        ← List.cons_append, ih (by simp)]
      simp

/-- Joining groups of pieces that are joined already. -/
theorem intercalate_flatten {α : Type} (sep : List α) {groups : List (List (List α))} (h : ∀ group ∈ groups, group ≠ []) :
    sep.intercalate (groups.map sep.intercalate) = sep.intercalate groups.flatten := by
  induction groups with
  | nil => rfl
  | cons group groups ih =>
    rw [List.forall_mem_cons] at h
    cases groups with
    | nil => simp
    | cons next groups =>
      have hne : (next :: groups).flatten ≠ [] := by
        have := h.2 next (by simp)
        simp [this]
      rw [List.flatten_cons, intercalate_append sep h.1 hne, ← ih h.2, List.map_cons, List.map_cons,
        List.intercalate_cons_cons]

/-- The text of some blocks of lines, with blank lines between the blocks. -/
def joinBlocks (blocks : List (List (List Char))) : List Char :=
  ['\n', '\n'].intercalate (blocks.map ['\n'].intercalate)

/-- Joined blocks are the lines of all blocks with an empty line between the blocks. -/
theorem intercalate_lines {blocks : List (List (List Char))} (h : ∀ block ∈ blocks, block ≠ []) :
    ['\n'].intercalate ([[]].intercalate blocks) = joinBlocks blocks := by
  unfold joinBlocks
  induction blocks with
  | nil => rfl
  | cons block blocks ih =>
    rw [List.forall_mem_cons] at h
    cases blocks with
    | nil => simp
    | cons next blocks =>
      have hne : [[]].intercalate (next :: blocks) ≠ [] := by
        obtain ⟨line, next, rfl⟩ := List.exists_cons_of_ne_nil (h.2 next (by simp))
        simp [List.intercalate_cons_cons_left]
      calc ['\n'].intercalate ([[]].intercalate (block :: next :: blocks))
        _ = ['\n'].intercalate (block ++ ([[]] ++ [[]].intercalate (next :: blocks))) := by
          rw [List.intercalate_cons_cons, List.append_assoc]
        _ = ['\n'].intercalate block ++ ['\n', '\n'] ++ ['\n'].intercalate ([[]].intercalate (next :: blocks)) := by
          rw [intercalate_append _ h.1 (by simp), intercalate_append _ (by simp) hne]
          simp
        _ = ['\n', '\n'].intercalate ((block :: next :: blocks).map ['\n'].intercalate) := by
          rw [ih h.2]
          simp

/-- Joined pieces end like one of them. -/
theorem getLast?_intercalate {α : Type} (sep : List α) {pieces : List (List α)} (hne : pieces ≠ [])
    (h : ∀ piece ∈ pieces, piece ≠ []) :
    ∃ piece ∈ pieces, (sep.intercalate pieces).getLast? = piece.getLast? := by
  obtain ⟨before, last, rfl⟩ : ∃ before last, pieces = before ++ [last] :=
    ⟨pieces.dropLast, pieces.getLast hne, (List.dropLast_concat_getLast hne).symm⟩
  refine ⟨last, by simp, ?_⟩
  cases before with
  | nil => simp
  | cons piece before =>
    rw [intercalate_append sep (by simp) (by simp), List.intercalate_singleton, List.getLast?_append,
      List.getLast?_eq_some_getLast (h last (by simp)), Option.some_or]

/-- Joined pieces begin like the first of them. -/
theorem head?_intercalate {α : Type} (sep : List α) {piece : List α} (h : piece ≠ []) (pieces : List (List α)) :
    (sep.intercalate (piece :: pieces)).head? = piece.head? := by
  obtain ⟨x, piece, rfl⟩ := List.exists_cons_of_ne_nil h
  rw [List.intercalate_cons_cons_left, List.head?_cons, List.head?_cons]

/-- Induction over the pieces of a text: the last one has no separator in it, and any other stands before one. -/
@[elab_as_elim]
theorem pieces_induction (sep : Char) {motive : List Char → Prop} (last : ∀ piece, sep ∉ piece → motive piece)
    (cons : ∀ piece rest, sep ∉ piece → motive rest → motive (piece ++ sep :: rest)) (cs : List Char) : motive cs := by
  by_cases h : sep ∈ cs
  · obtain ⟨piece, rest, rfl, hpiece⟩ := List.eq_append_cons_of_mem h
    exact cons piece rest hpiece (pieces_induction sep last cons rest)
  · exact last cs h
termination_by cs.length

/-- Cutting at any of the separators. -/
theorem splitOn_append_cons_append {sep : Char} (cs rest : List Char) :
    splitOn sep (cs ++ sep :: rest) = splitOn sep cs ++ splitOn sep rest := by
  induction cs using pieces_induction sep with
  | last piece h => rw [splitOn_append_cons h, splitOn_of_not_mem h, List.singleton_append]
  | cons piece more h ih =>
    rw [List.append_assoc, List.cons_append, splitOn_append_cons h, splitOn_append_cons h, ih, List.cons_append]

/-- There is one piece more than there are separators. -/
theorem length_splitOn {sep : Char} (cs : List Char) : (splitOn sep cs).length = cs.count sep + 1 := by
  induction cs using pieces_induction sep with
  | last piece h => rw [splitOn_of_not_mem h, List.count_eq_zero_of_not_mem h, List.length_singleton]
  | cons piece rest h ih =>
    rw [splitOn_append_cons h, List.length_cons, ih, List.count_append, List.count_eq_zero_of_not_mem h,
      List.count_cons_self, Nat.zero_add]

theorem splitOn_intercalate {sep : Char} {pieces : List (List Char)} (h : ∀ piece ∈ pieces, sep ∉ piece)
    (hne : pieces ≠ []) : splitOn sep ([sep].intercalate pieces) = pieces := by
  induction pieces with
  | nil => exact absurd rfl hne
  | cons piece pieces ih =>
    rw [List.forall_mem_cons] at h
    cases pieces with
    | nil => rw [List.intercalate_singleton, splitOn_of_not_mem h.1]
    | cons next pieces =>
      rw [List.intercalate_cons_cons, List.append_assoc, List.singleton_append, splitOn_append_cons h.1,
        ih h.2 (by simp)]

/-! ### Paragraphs -/

/-- Puts some characters in front of the first piece. -/
private def prepend (cs : List Char) : List (List Char) → List (List Char)
  | [] => [cs]
  | piece :: pieces => (cs ++ piece) :: pieces

/-- The pieces between blank lines, that is between two line feeds in a row, found from the left. -/
def paragraphs : List Char → List (List Char)
  | [] => [[]]
  | '\n' :: '\n' :: cs => [] :: paragraphs cs
  | c :: cs => prepend [c] (paragraphs cs)

private theorem prepend_append (a b : List Char) (pieces : List (List Char)) :
    prepend (a ++ b) pieces = prepend a (prepend b pieces) := by
  cases pieces <;> simp [prepend]

private theorem paragraphs_cons {c : Char} {cs : List Char} (h : ¬(c = '\n' ∧ cs.head? = some '\n')) :
    paragraphs (c :: cs) = prepend [c] (paragraphs cs) := by
  rw [paragraphs]
  rintro cs' rfl rfl
  exact h ⟨rfl, rfl⟩

private theorem paragraphs_append_of_not_mem {line : List Char} (h : '\n' ∉ line) (hne : line ≠ [])
    (rest : List Char) : paragraphs (line ++ rest) = prepend line (paragraphs rest) := by
  induction line with
  | nil => exact absurd rfl hne
  | cons c line ih =>
    simp only [List.mem_cons, not_or] at h
    rw [List.cons_append, paragraphs_cons fun hc => h.1 hc.1.symm]
    cases line with
    | nil => rfl
    | cons d line => rw [ih h.2 (by simp), ← prepend_append]; rfl

/-- Lines that are not empty stay in one paragraph. -/
private theorem paragraphs_lines_append {lines : List (List Char)} (h : ∀ line ∈ lines, '\n' ∉ line ∧ line ≠ [])
    (hne : lines ≠ []) (rest : List Char) :
    paragraphs (['\n'].intercalate lines ++ rest) = prepend (['\n'].intercalate lines) (paragraphs rest) := by
  induction lines with
  | nil => exact absurd rfl hne
  | cons line lines ih =>
    rw [List.forall_mem_cons] at h
    cases lines with
    | nil =>
      rw [List.intercalate_singleton, paragraphs_append_of_not_mem h.1.1 h.1.2]
    | cons next lines =>
      have hnext := h.2 next (by simp)
      have hhead : (['\n'].intercalate (next :: lines) ++ rest).head? ≠ some '\n' := by
        obtain ⟨c, next, rfl⟩ := List.exists_cons_of_ne_nil hnext.2
        rw [List.intercalate_cons_cons_left]
        intro hc
        simp at hc
        simp [hc] at hnext
      rw [List.intercalate_cons_cons, List.append_assoc, List.append_assoc, List.singleton_append,
        paragraphs_append_of_not_mem h.1.1 h.1.2, paragraphs_cons fun hc => hhead hc.2, ih h.2 (by simp),
        prepend_append, prepend_append]

/-- Blocks of lines that are not empty are the paragraphs of their text. -/
theorem paragraphs_joinBlocks {blocks : List (List (List Char))} (hne : blocks ≠ [])
    (h : ∀ block ∈ blocks, block ≠ [] ∧ ∀ line ∈ block, '\n' ∉ line ∧ line ≠ []) :
    paragraphs (joinBlocks blocks) = blocks.map ['\n'].intercalate := by
  unfold joinBlocks
  induction blocks with
  | nil => exact absurd rfl hne
  | cons block blocks ih =>
    rw [List.forall_mem_cons] at h
    cases blocks with
    | nil =>
      have hp := paragraphs_lines_append h.1.2 h.1.1 []
      rw [List.append_nil] at hp
      rw [List.map_singleton, List.intercalate_singleton, hp]
      simp [paragraphs, prepend]
    | cons next blocks =>
      rw [List.map_cons, List.map_cons, List.intercalate_cons_cons, List.append_assoc,
        paragraphs_lines_append h.1.2 h.1.1, ← List.map_cons, List.cons_append, List.singleton_append, paragraphs,
        ih (by simp) h.2]
      simp [prepend]

end TableScript.Text
