import TableScript.Proofs.Text.Joining

/-!
# Lines

A text is cut into lines from the left: what stands before the first line feed is the first line, but for a carriage
return at its end (`lines_append_cons`).
-/

namespace TableScript.Text

theorem splitOn_ne_nil (sep : Char) (cs : List Char) : splitOn sep cs ≠ [] := by
  by_cases h : sep ∈ cs
  · obtain ⟨first, more, rfl, hfirst⟩ := List.eq_append_cons_of_mem h
    rw [splitOn_append_cons hfirst]
    exact List.cons_ne_nil _ _
  · rw [splitOn_of_not_mem h]
    exact List.cons_ne_nil _ _

theorem not_mem_of_mem_splitOn {sep : Char} {cs piece : List Char} (h : piece ∈ splitOn sep cs) : sep ∉ piece := by
  induction cs using pieces_induction sep with
  | last first hfirst =>
    rw [splitOn_of_not_mem hfirst, List.mem_singleton] at h
    exact h ▸ hfirst
  | cons first rest hfirst ih =>
    rw [splitOn_append_cons hfirst, List.mem_cons] at h
    rcases h with rfl | h
    · exact hfirst
    · exact ih h

theorem mem_of_mem_splitOn {sep c : Char} {cs piece : List Char} (h : piece ∈ splitOn sep cs) (hc : c ∈ piece) :
    c ∈ cs := by
  induction cs using pieces_induction sep with
  | last first hfirst =>
    rw [splitOn_of_not_mem hfirst, List.mem_singleton] at h
    exact h ▸ hc
  | cons first rest hfirst ih =>
    rw [splitOn_append_cons hfirst, List.mem_cons] at h
    rcases h with rfl | h
    · simp [hc]
    · simp [ih h]

/-- What has no separator in it goes on with the last piece. -/
theorem exists_splitOn_append {sep : Char} {after : List Char} (h : sep ∉ after) (cs : List Char) :
    ∃ pieces last, splitOn sep cs = pieces ++ [last] ∧ splitOn sep (cs ++ after) = pieces ++ [last ++ after] := by
  induction cs using pieces_induction sep with
  | last piece hpiece =>
    refine ⟨[], piece, splitOn_of_not_mem hpiece, ?_⟩
    rw [splitOn_of_not_mem (List.not_mem_append hpiece h), List.nil_append]
  | cons piece rest hpiece ih =>
    obtain ⟨pieces, last, hrest, hafter⟩ := ih
    refine ⟨piece :: pieces, last, ?_, ?_⟩
    · rw [splitOn_append_cons hpiece, hrest, List.cons_append]
    · rw [List.append_assoc, List.cons_append, splitOn_append_cons hpiece, hafter, List.cons_append]

/-- The last piece is empty where a text is empty or ends in a separator. -/
theorem getLast?_splitOn_eq_nil_iff {sep : Char} {cs : List Char} :
    (splitOn sep cs).getLast? = some [] ↔ ∀ c ∈ cs.getLast?, c = sep := by
  induction cs using pieces_induction sep with
  | last piece h =>
    rw [splitOn_of_not_mem h, List.getLast?_singleton, Option.some_inj]
    constructor
    · rintro rfl
      simp
    · intro hlast
      refine List.getLast?_eq_none_iff.1 (Option.eq_none_iff_forall_ne_some.2 fun c hc => h ?_)
      rw [← hlast c hc]
      exact List.mem_of_getLast? hc
  | cons piece rest h ih =>
    rw [splitOn_append_cons h, List.getLast?_cons_of_ne_nil (splitOn_ne_nil sep rest), ih, List.getLast?_append]
    cases rest with
    | nil => simp
    | cons c rest => simp [List.getLast?_cons_cons]

variable {line : List Char}

theorem lines_of_not_mem (h : '\n' ∉ line) : lines line = if line = [] then [] else [line] := by
  rw [lines, splitOn_of_not_mem h]
  cases line <;> rfl

theorem lines_append_cons (h : '\n' ∉ line) (rest : List Char) :
    lines (line ++ '\n' :: rest) = dropCarriageReturn line :: lines rest := by
  have hne := splitOn_ne_nil '\n' rest
  simp only [lines, splitOn_append_cons h, List.dropLast_cons_of_ne_nil hne, List.getLast?_cons_of_ne_nil hne,
    List.map_cons, List.cons_append]

theorem dropCarriageReturn_append (line : List Char) : dropCarriageReturn (line ++ ['\r']) = line := by
  simp [dropCarriageReturn]

theorem dropCarriageReturn_eq_or (line : List Char) :
    dropCarriageReturn line = line ∨ line = dropCarriageReturn line ++ ['\r'] := by
  by_cases h : line.getLast? = some '\r'
  · obtain ⟨before, rfl⟩ := List.getLast?_eq_some_iff.mp h
    rw [dropCarriageReturn_append]
    exact Or.inr rfl
  · exact Or.inl (if_neg h)

end TableScript.Text
