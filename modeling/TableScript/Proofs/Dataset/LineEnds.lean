import TableScript.Proofs.Dataset.Writing

/-!
# Line ends

Which line ends a text has (`filledCells_withCarriageReturns`), whether its last line is ended
(`filledCells_lineFeed`) and where blank lines stand in it (`filledCells_insert`) does not show in the cells of its
rows, and so extraction does not depend on it (`extract_ignores_line_ends`).
-/

namespace TableScript

namespace Dataset

variable {line blank before : List Char}

/-- The text with a carriage return before every line feed. -/
def withCarriageReturns (cs : List Char) : List Char :=
  cs.flatMap fun c => if c = '\n' then ['\r', '\n'] else [c]

theorem withCarriageReturns_of_not_mem (h : '\n' ∉ line) : withCarriageReturns line = line := by
  have hsame : ∀ c ∈ line, (if c = '\n' then ['\r', '\n'] else [c]) = [c] := by
    intro c hc
    rw [if_neg]
    rintro rfl
    exact h hc
  rw [withCarriageReturns, List.flatMap_congr hsame, List.flatMap_singleton']

theorem withCarriageReturns_append_lineFeed (h : '\n' ∉ line) (rest : List Char) :
    withCarriageReturns (line ++ '\n' :: rest) = (line ++ ['\r']) ++ '\n' :: withCarriageReturns rest := by
  have hline : withCarriageReturns (line ++ '\n' :: rest) =
      withCarriageReturns line ++ (['\r', '\n'] ++ withCarriageReturns rest) := by
    rw [withCarriageReturns, List.flatMap_append]
    rfl
  rw [hline, withCarriageReturns_of_not_mem h]
  simp

theorem filledCells_withCarriageReturns (cs : List Char) : filledCells (withCarriageReturns cs) = filledCells cs := by
  induction cs using Text.pieces_induction '\n' with
  | last line h => rw [withCarriageReturns_of_not_mem h]
  | cons line rest h ih =>
    rw [withCarriageReturns_append_lineFeed h, filledCells_append_lineFeed, filledCells_append_lineFeed,
      filledCells_carriageReturn h, ih]

theorem IsPadding.filledCells_eq_nil (h : IsPadding blank) : filledCells blank = [] := by
  rw [filledCells_of_not_mem h.newline_not_mem, if_pos h.all_blank]

/-- A blank line does not show, wherever it is put in. -/
theorem filledCells_insert (hbefore : EndsLine before) (hblank : IsPadding blank) (after : List Char) :
    filledCells (before ++ (blank ++ ['\n']) ++ after) = filledCells (before ++ after) := by
  have hinserted : filledCells (blank ++ '\n' :: after) = filledCells after := by
    rw [filledCells_append_lineFeed, hblank.filledCells_eq_nil, List.nil_append]
  rcases hbefore.eq_nil_or with rfl | ⟨lines, rfl⟩
  · simpa using hinserted
  · calc filledCells (lines ++ ['\n'] ++ (blank ++ ['\n']) ++ after)
      _ = filledCells (lines ++ '\n' :: (blank ++ '\n' :: after)) := by simp
      _ = filledCells (lines ++ '\n' :: after) := by
        rw [filledCells_append_lineFeed, hinserted, filledCells_append_lineFeed]
      _ = filledCells (lines ++ ['\n'] ++ after) := by simp

theorem filledCells_lineFeed (cs : List Char) : filledCells (cs ++ ['\n']) = filledCells cs := by
  rw [filledCells_append_lineFeed]
  exact List.append_nil _

end Dataset

open Dataset

/-- The same is extracted, and told, from a text with a carriage return before every line feed, with a line feed more
or less at its end, and with a blank line put in at the beginning or behind any line feed. -/
theorem extract_ignores_line_ends (fileName text : String) :
    extract .allow fileName (String.ofList (withCarriageReturns text.toList)) = extract .allow fileName text ∧
    extract .allow fileName (text ++ "\n") = extract .allow fileName text ∧
    (∀ shorter, text = shorter ++ "\n" → extract .allow fileName shorter = extract .allow fileName text) ∧
    ∀ before blank after, text.toList = before ++ after → EndsLine before → IsPadding blank →
      extract .allow fileName (String.ofList (before ++ (blank ++ ['\n']) ++ after)) =
        extract .allow fileName text := by
  have hend (s : String) : extract .allow fileName (s ++ "\n") = extract .allow fileName s :=
    extract_allow_congr (by rw [String.toList_append]; exact filledCells_lineFeed s.toList)
  refine ⟨extract_allow_congr ?_, hend text, ?_, ?_⟩
  · rw [String.toList_ofList, filledCells_withCarriageReturns]
  · rintro shorter rfl
    exact (hend shorter).symm
  · intro before blank after htext hbefore hblank
    refine extract_allow_congr ?_
    rw [String.toList_ofList, filledCells_insert hbefore hblank, htext]

/-- A blank line that looks ended already, put in before a line whose lone carriage return follows a quote. -/
theorem extract_ignores_lone_carriage_returns :
    EndsLine "a,b\r\n".toList ∧ IsPadding " \r".toList ∧
      extract .allow "d.csv" "a,b\r\n \r\n1,\"2\"\r" = extract .allow "d.csv" "a,b\r\n1,\"2\"\r" := by
  have hbefore : EndsLine "a,b\r\n".toList := by simp [EndsLine]
  have hblank : IsPadding " \r".toList := by decide
  have hinsert := (extract_ignores_line_ends "d.csv" "a,b\r\n1,\"2\"\r").2.2.2
  exact ⟨hbefore, hblank, hinsert "a,b\r\n".toList " \r".toList "1,\"2\"\r".toList rfl hbefore hblank⟩

end TableScript
