import Mathlib.Data.List.Forall2
import TableScript.Proofs.Text.Joining
import TableScript.Proofs.Text.Trimming
import TableScript.Script.Assembly

/-!
# Assembling

Assembling drops line breaks at the ends of texts, leaves out blank texts, and joins the others.  The texts that are
left have a form of their own (`Kept`), which assembling does not change and which joining preserves.  So it makes no
difference if texts are assembled in groups first (`assemble_map_assemble`), and what has been assembled stays as it is
(`assemble_normalises`).
-/

namespace TableScript

/-! ## The texts that are kept -/

/-- Neither blank nor with a line break at the end. -/
structure Kept (text : List Char) : Prop where
  last : ∀ c ∈ text.getLast?, isLineBreak c = false
  notBlank : ¬text.all Text.isBlankChar

theorem Kept.ne_nil {text : List Char} (h : Kept text) : text ≠ [] := by
  rintro rfl
  exact h.notBlank rfl

theorem isLineBreak_iff {c : Char} : isLineBreak c ↔ c = '\n' ∨ c = '\r' := by
  simp [isLineBreak]

theorem isBlankChar_of_isLineBreak {c : Char} (h : isLineBreak c) : Text.isBlankChar c := by
  rcases isLineBreak_iff.1 h with rfl | rfl <;> rfl

/-- The line breaks at the end make no difference to whether a text is blank. -/
theorem all_isBlankChar_dropEndWhile (text : List Char) :
    (Text.dropEndWhile isLineBreak text).all Text.isBlankChar = text.all Text.isBlankChar := by
  obtain ⟨dropped, htext, hdropped⟩ := Text.exists_dropEndWhile_append isLineBreak text
  have hblank : dropped.all Text.isBlankChar := by
    rw [List.all_eq_true]
    exact fun c hc => isBlankChar_of_isLineBreak (hdropped c hc)
  conv_rhs => rw [htext, List.all_append, hblank, Bool.and_true]

theorem keptChars_eq_map (texts : List (List Char)) :
    keptChars texts =
      (texts.filter fun text => !text.all Text.isBlankChar).map (Text.dropEndWhile isLineBreak) := by
  rw [keptChars, List.filter_map]
  congr 2
  funext text
  exact congrArg (!·) (all_isBlankChar_dropEndWhile text)

theorem keptChars_cons (text : List Char) (texts : List (List Char)) :
    keptChars (text :: texts) = keptChars [text] ++ keptChars texts := by
  rw [keptChars_eq_map, keptChars_eq_map, keptChars_eq_map, ← List.map_append, ← List.filter_append,
    List.singleton_append]

theorem keptChars_flatten (groups : List (List (List Char))) :
    keptChars groups.flatten = (groups.map keptChars).flatten := by
  rw [keptChars, List.map_flatten, List.filter_flatten, List.map_map]
  rfl

theorem kept_of_mem_keptChars {texts : List (List Char)} {text : List Char} (h : text ∈ keptChars texts) :
    Kept text := by
  obtain ⟨hmem, hblank⟩ := List.mem_filter.1 h
  obtain ⟨before, -, rfl⟩ := List.mem_map.1 hmem
  exact ⟨fun c hc => Text.getLast?_dropEndWhile hc, by simpa using hblank⟩

/-- Texts of this form are all kept, as they are. -/
theorem keptChars_eq_self {texts : List (List Char)} (h : ∀ text ∈ texts, Kept text) : keptChars texts = texts := by
  have hmap : texts.map (Text.dropEndWhile isLineBreak) = texts := by
    rw [List.map_congr_left fun text ht => Text.dropEndWhile_eq_self (h text ht).last, List.map_id']
  rw [keptChars, hmap, List.filter_eq_self]
  exact fun text ht => by simpa using (h text ht).notBlank

/-- Kept texts are joined to one that is kept. -/
theorem Kept.intercalate {texts : List (List Char)} (hne : texts ≠ []) (h : ∀ text ∈ texts, Kept text) :
    Kept (['\n', '\n'].intercalate texts) := by
  constructor
  · obtain ⟨text, hmem, hlast⟩ := Text.getLast?_intercalate ['\n', '\n'] hne fun text ht => (h text ht).ne_nil
    rw [hlast]
    exact (h text hmem).last
  · obtain ⟨first, more, rfl⟩ := List.exists_cons_of_ne_nil hne
    obtain ⟨rest, hrest, -⟩ := Text.exists_intercalate_cons ['\n', '\n'] first more
    rw [hrest, List.all_append, Bool.and_eq_true]
    exact fun hall => (h first List.mem_cons_self).notBlank hall.1

/-! ## One text from others -/

theorem assembleChars_eq (texts : List (List Char)) :
    assembleChars texts =
      if keptChars texts = [] then [] else ['\n', '\n'].intercalate (keptChars texts) ++ ['\n'] := by
  by_cases h : keptChars texts = []
  · simp [assembleChars, h]
  · have hbody := (Kept.intercalate h fun text => kept_of_mem_keptChars).ne_nil
    simp [assembleChars, h, hbody]

theorem keptChars_lineFeed (text : List Char) : keptChars [text ++ ['\n']] = keptChars [text] := by
  have hbreak : isLineBreak '\n' = true := rfl
  have hend : Text.dropEndWhile isLineBreak (text ++ ['\n']) = Text.dropEndWhile isLineBreak text :=
    List.rdropWhile_concat_pos isLineBreak text '\n' hbreak
  rw [keptChars, keptChars, List.map_singleton, List.map_singleton, hend]

/-- An assembled text is kept without its line feed, unless it is empty. -/
theorem keptChars_assembleChars (texts : List (List Char)) :
    keptChars [assembleChars texts] =
      if keptChars texts = [] then [] else [['\n', '\n'].intercalate (keptChars texts)] := by
  rw [assembleChars_eq]
  split_ifs with h
  · rfl
  · have hkept := Kept.intercalate h fun text => kept_of_mem_keptChars
    rw [keptChars_lineFeed, keptChars_eq_self (List.forall_mem_singleton.2 hkept)]

/-- Of assembled texts those are kept that are made from some texts. -/
theorem keptChars_map_assembleChars (groups : List (List (List Char))) :
    keptChars (groups.map assembleChars) =
      ((groups.map keptChars).filter (· ≠ [])).map ['\n', '\n'].intercalate := by
  induction groups with
  | nil => rfl
  | cons group groups ih =>
    rw [List.map_cons, keptChars_cons, ih, keptChars_assembleChars, List.map_cons]
    by_cases h : keptChars group = []
    · simp [h]
    · simp [h]

/-- Texts may be assembled in groups first. -/
theorem assembleChars_map_assembleChars (groups : List (List (List Char))) :
    assembleChars (groups.map assembleChars) = assembleChars groups.flatten := by
  -- groups of blank texts leave nothing: joined with the others, they would leave gaps
  have hgroups : ∀ group ∈ (groups.map keptChars).filter (· ≠ []), group ≠ [] := by
    intro group hg
    simpa using (List.mem_filter.1 hg).2
  have hbody : ['\n', '\n'].intercalate (keptChars (groups.map assembleChars)) =
      ['\n', '\n'].intercalate (keptChars groups.flatten) := by
    rw [keptChars_map_assembleChars, Text.intercalate_flatten _ hgroups, List.flatten_filter_ne_nil, keptChars_flatten]
  rw [assembleChars, assembleChars, hbody]

theorem assemble_map_assemble (groups : List (List String)) :
    assemble (groups.map assemble) = assemble groups.flatten := by
  have hchars : (groups.map assemble).map String.toList =
      (groups.map fun group => group.map String.toList).map assembleChars := by
    simp [assemble]
  rw [assemble, hchars, assembleChars_map_assembleChars, assemble, List.map_flatten]

/-! ## What an assembled text is -/

/-- A text without the line breaks at its end. -/
def dropBreaks (text : String) : String :=
  String.ofList (Text.dropEndWhile isLineBreak text.toList)

theorem keptChars_map_toList (texts : List String) :
    keptChars (texts.map String.toList) =
      ((texts.filter fun text => !Text.isBlank text).map dropBreaks).map String.toList := by
  rw [keptChars_eq_map, List.filter_map, List.map_map, List.map_map]
  refine List.map_congr_left fun text _ => ?_
  rw [Function.comp_apply, Function.comp_apply, dropBreaks, String.toList_ofList]

theorem assemble_eq_empty_iff {texts : List String} : assemble texts = "" ↔ ∀ text ∈ texts, Text.isBlank text := by
  have hkept : keptChars (texts.map String.toList) = [] ↔ ∀ text ∈ texts, Text.isBlank text := by
    simp [keptChars_map_toList]
  rw [← hkept, assemble, assembleChars_eq]
  split_ifs with h
  · simp [h]
  · simp [h]

/-- The second text is the first one without the line breaks at its end. -/
structure WithoutBreaks (text kept : String) : Prop where
  breaks : ∃ breaks, text.toList = kept.toList ++ breaks ∧ ∀ c ∈ breaks, c = '\n' ∨ c = '\r'
  last : ∀ c ∈ kept.toList.getLast?, c ≠ '\n' ∧ c ≠ '\r'

theorem withoutBreaks_dropBreaks (text : String) : WithoutBreaks text (dropBreaks text) := by
  obtain ⟨breaks, htext, hbreaks⟩ := Text.exists_dropEndWhile_append isLineBreak text.toList
  refine ⟨⟨breaks, ?_, fun c hc => isLineBreak_iff.1 (hbreaks c hc)⟩, fun c hc => ?_⟩
  · rwa [dropBreaks, String.toList_ofList]
  · rw [dropBreaks, String.toList_ofList] at hc
    simpa [isLineBreak] using Text.getLast?_dropEndWhile hc

theorem toList_assemble_of_ne {texts : List String} (h : assemble texts ≠ "") :
    keptChars (texts.map String.toList) ≠ [] ∧
      (assemble texts).toList = ['\n', '\n'].intercalate (keptChars (texts.map String.toList)) ++ ['\n'] := by
  have hkept : keptChars (texts.map String.toList) ≠ [] := by
    intro hnil
    rw [assemble, assembleChars_eq, if_pos hnil] at h
    exact h rfl
  exact ⟨hkept, by rw [assemble, String.toList_ofList, assembleChars_eq, if_neg hkept]⟩

theorem assemble_of_ne {texts : List String} (h : assemble texts ≠ "") :
    assemble texts = Text.join "\n\n" ((texts.filter fun text => !Text.isBlank text).map dropBreaks) ++ "\n" := by
  rw [← String.toList_inj, (toList_assemble_of_ne h).2, keptChars_map_toList, Text.join, String.toList_append,
    String.toList_ofList]
  rfl

theorem exists_last_of_ne {texts : List String} (h : assemble texts ≠ "") :
    ∃ before last, (assemble texts).toList = before ++ [last, '\n'] ∧ last ≠ '\n' ∧ last ≠ '\r' := by
  obtain ⟨hne, htext⟩ := toList_assemble_of_ne h
  have hkept := Kept.intercalate hne fun text => kept_of_mem_keptChars
  obtain ⟨before, last, hbody⟩ := (List.eq_nil_or_concat' _).resolve_left hkept.ne_nil
  have hlast := hkept.last last (by simp [hbody])
  refine ⟨before, last, ?_, by simpa [isLineBreak] using hlast⟩
  rw [htext, hbody, List.append_assoc]
  rfl

/-- Assembling may be done in parts, and done again it changes nothing.  What it makes is empty if all texts are blank;
else it is the texts that are not blank, without the line breaks at their ends and with a blank line between them, and
it ends in one line feed, with no line break right before it. -/
theorem assemble_normalises (texts more : List String) :
    assemble (texts ++ more) = assemble [assemble texts, assemble more] ∧
      assemble [assemble texts] = assemble texts ∧
      (assemble texts = "" ↔ ∀ text ∈ texts, Text.isBlank text) ∧
      (assemble texts ≠ "" →
        (∃ before last, (assemble texts).toList = before ++ [last, '\n'] ∧ last ≠ '\n' ∧ last ≠ '\r') ∧
        ∃ kept, List.Forall₂ WithoutBreaks (texts.filter fun text => !Text.isBlank text) kept ∧
          assemble texts = Text.join "\n\n" kept ++ "\n") := by
  refine ⟨?_, ?_, assemble_eq_empty_iff, fun h => ⟨exists_last_of_ne h, ?_⟩⟩
  · have hparts := assemble_map_assemble [texts, more]
    rw [List.flatten_cons, List.flatten_singleton] at hparts
    exact hparts.symm
  · have hpart := assemble_map_assemble [texts]
    rwa [List.flatten_singleton] at hpart
  · refine ⟨(texts.filter fun text => !Text.isBlank text).map dropBreaks, ?_, assemble_of_ne h⟩
    rw [List.forall₂_map_right_iff, List.forall₂_same]
    exact fun text _ => withoutBreaks_dropBreaks text

/-- Blanks that are no line breaks stay at the end of a text, and a text of blanks leaves no gap. -/
theorem assemble_normalises_mixed_ends :
    assemble ["a \r\n", "\t\n", "\nb\n\r"] ≠ "" ∧
      assemble ["a \r\n", "\t\n", "\nb\n\r"] = "a \n\n\nb\n" ∧
      assemble ["a \r\n", "\t\n", "\nb\n\r", "\r", "c"] = assemble ["a \n\n\nb\n", "c\n"] ∧
      ∃ kept, List.Forall₂ WithoutBreaks ["a \r\n", "\nb\n\r"] kept ∧
        assemble ["a \r\n", "\t\n", "\nb\n\r"] = Text.join "\n\n" kept ++ "\n" := by
  have hfirst : assemble ["a \r\n", "\t\n", "\nb\n\r"] = "a \n\n\nb\n" := by decide
  have hsecond : assemble ["\r", "c"] = "c\n" := by decide
  have hne : assemble ["a \r\n", "\t\n", "\nb\n\r"] ≠ "" := by
    rw [hfirst]
    decide
  obtain ⟨hparts, -, -, hwhole⟩ := assemble_normalises ["a \r\n", "\t\n", "\nb\n\r"] ["\r", "c"]
  rw [hfirst, hsecond] at hparts
  exact ⟨hne, hfirst, hparts, (hwhole hne).2⟩

end TableScript
