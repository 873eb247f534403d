import TableScript.Proofs.Script.Substitution
import TableScript.Proofs.Text.Ascii
import TableScript.Script.Fragment
import TableScript.Text.Control

/-!
# Filling fragments

Filling binds one placeholder after another by replacing text.  If neither the copied text of a fragment nor the
values have an opening brace, it is a single pass over its template, and the outcome is that of filling all its holes at
once, line by line (`Fragment.fill_template`).  The value that is bound last may hold anything.
-/

namespace TableScript

theorem Parameter.name_injective {a b : Parameter} (h : a.name = b.name) : a = b := by
  revert h
  cases a <;> cases b <;> decide

/-- A name has no braces. -/
theorem Parameter.brace_not_mem_name (parameter : Parameter) :
    '{' ∉ parameter.name.toList ∧ '}' ∉ parameter.name.toList := by
  cases parameter <;> decide

namespace Piece

/-- A piece whose text has no opening brace. -/
def Plain : Piece → Prop
  | text s => '{' ∉ s.toList
  | hole _ => True

/-- A piece that copies neither opening braces nor control characters, or is a hole for one of these parameters. -/
def Fits (parameters : List Parameter) : Piece → Prop
  | text s => ∀ c ∈ s.toList, c ≠ '{' ∧ Text.isControl c = false
  | hole parameter => parameter ∈ parameters

instance (parameters : List Parameter) : DecidablePred (Fits parameters) := fun piece =>
  match piece with
  | text s => List.decidableBAll (fun c => c ≠ '{' ∧ Text.isControl c = false) s.toList
  | hole parameter => inferInstanceAs (Decidable (parameter ∈ parameters))

theorem Fits.plain {parameters : List Parameter} {piece : Piece} (h : piece.Fits parameters) : piece.Plain := by
  cases piece with
  | text s => exact fun hb => (h '{' hb).1 rfl
  | hole parameter => trivial

/-- The characters of a piece when every parameter has a value. -/
def filled (value : Parameter → String) : Piece → List Char
  | text s => s.toList
  | hole parameter => (value parameter).toList

/-- The same, with less computing. -/
def filledChars (value : Parameter → String) : Piece → List Char
  | text s => Text.charsOf s
  | hole parameter => Text.charsOf (value parameter)

theorem filled_eq_filledChars : filled = filledChars := by
  funext value piece
  cases piece <;> exact Text.toList_eq_charsOf _

/-- Pieces whose texts have no opening brace make a template. -/
theorem isTemplate_chars {pieces : List Piece} (h : ∀ piece ∈ pieces, piece.Plain) :
    Template.IsTemplate (pieces.flatMap chars) := by
  induction pieces with
  | nil => exact .nil
  | cons piece pieces ih =>
    rw [List.forall_mem_cons] at h
    rw [List.flatMap_cons]
    cases piece with
    | text s => exact (ih h.2).append_of_not_mem h.1
    | hole parameter => exact (ih h.2).hole parameter.brace_not_mem_name.1 parameter.brace_not_mem_name.2

end Piece

namespace Template

/-- The bindings of some parameters to their values. -/
def bindingsOf (value : Parameter → String) (parameters : List Parameter) : List (String × String) :=
  parameters.map fun parameter => (parameter.name, value parameter)

variable {value : Parameter → String} {parameters : List Parameter}

theorem close_not_mem_bindingsOf : ∀ binding ∈ bindingsOf value parameters, '}' ∉ binding.1.toList := by
  intro binding hb
  obtain ⟨parameter, -, rfl⟩ := List.mem_map.1 hb
  exact parameter.brace_not_mem_name.2

theorem written_bindingsOf {parameter : Parameter} (h : parameter ∈ parameters) :
    written (bindingsOf value parameters) parameter.name = (value parameter).toList := by
  have hget : Dict.get? parameter.name (bindingsOf value parameters) = some (value parameter) :=
    Dict.get?_map_of_mem Parameter.name value h fun other _ he => Parameter.name_injective he
  rw [written, hget]

/-- No placeholder begins in a text without opening braces. -/
theorem placeholder_infix_append_iff {name copied : List Char} (h : '{' ∉ copied) (cs : List Char) :
    placeholder name <:+: copied ++ cs ↔ placeholder name <:+: cs := by
  induction copied with
  | nil => rfl
  | cons c copied ih =>
    rw [List.mem_cons, not_or] at h
    rw [List.cons_append, List.infix_cons_iff, ih h.2, placeholder, List.cons_prefix_cons]
    simp [h.1]

/-- The placeholders in the text of pieces are those of their holes. -/
theorem placeholder_infix_chars_iff {pieces : List Piece} (h : ∀ piece ∈ pieces, piece.Plain) {parameter : Parameter} :
    placeholder parameter.name.toList <:+: pieces.flatMap Piece.chars ↔ .hole parameter ∈ pieces := by
  induction pieces with
  | nil => simp [placeholder]
  | cons piece pieces ih =>
    rw [List.forall_mem_cons] at h
    rw [List.flatMap_cons, List.mem_cons, ← ih h.2]
    cases piece with
    | text s => simp [Piece.chars, placeholder_infix_append_iff h.1]
    | hole other =>
      have hopen : '{' ∉ other.name.toList ++ ['}'] := by simp [other.brace_not_mem_name.1]
      have hsame : placeholder parameter.name.toList <+: placeholder other.name.toList ++ pieces.flatMap Piece.chars ↔
          Piece.hole parameter = .hole other := by
        rw [placeholder_prefix_iff parameter.brace_not_mem_name.2 other.brace_not_mem_name.2, String.toList_inj,
          Piece.hole.injEq]
        exact ⟨Parameter.name_injective, congrArg Parameter.name⟩
      exact List.infix_cons_iff.trans (or_congr hsame (placeholder_infix_append_iff hopen _))

/-- A pass over pieces fills their holes. -/
theorem substitute_chars {pieces : List Piece} (h : ∀ piece ∈ pieces, piece.Plain)
    (hp : ∀ parameter, .hole parameter ∈ pieces → parameter ∈ parameters) :
    substitute (bindingsOf value parameters) (pieces.flatMap Piece.chars) =
      pieces.flatMap (Piece.filled value) := by
  induction pieces with
  | nil => rfl
  | cons piece pieces ih =>
    rw [List.forall_mem_cons] at h
    rw [List.flatMap_cons, List.flatMap_cons, ← ih h.2 fun parameter hm => hp parameter (List.mem_cons_of_mem _ hm)]
    cases piece with
    | text s => exact substitute_append_of_not_mem h.1 _
    | hole parameter =>
      rw [Piece.chars, substitute_placeholder_append close_not_mem_bindingsOf parameter.brace_not_mem_name.1
        parameter.brace_not_mem_name.2, written_bindingsOf (hp parameter List.mem_cons_self), Piece.filled]

end Template

namespace Fragment

/-- The holes of a fragment are for these parameters, and its copied text is neither a brace nor leaves its line. -/
def Takes (parameters : List Parameter) (fragment : Fragment) : Prop :=
  ∀ line ∈ fragment.lines, ∀ piece ∈ line, piece.Fits parameters

instance (parameters : List Parameter) (fragment : Fragment) : Decidable (fragment.Takes parameters) :=
  inferInstanceAs (Decidable (∀ line ∈ fragment.lines, ∀ piece ∈ line, piece.Fits parameters))

/-- The lines of a fragment with all holes filled. -/
def filledLines (value : Parameter → String) (fragment : Fragment) : List (List Char) :=
  fragment.lines.map fun line => line.flatMap (Piece.filled value)

theorem uses_iff {fragment : Fragment} {parameter : Parameter} :
    fragment.uses parameter ↔ ∃ line ∈ fragment.lines, .hole parameter ∈ line := by
  simp [uses]

theorem Takes.mem_of_uses {parameters : List Parameter} {fragment : Fragment} (h : fragment.Takes parameters)
    {parameter : Parameter} (hu : fragment.uses parameter) : parameter ∈ parameters := by
  obtain ⟨line, hl, hp⟩ := uses_iff.1 hu
  exact h line hl _ hp

/-- A filled line depends on the values of its holes. -/
theorem flatMap_filled_congr {line : List Piece} {value value' : Parameter → String}
    (h : ∀ parameter, .hole parameter ∈ line → value parameter = value' parameter) :
    line.flatMap (Piece.filled value) = line.flatMap (Piece.filled value') := by
  rw [List.flatMap_def, List.flatMap_def]
  congr 1
  refine List.map_congr_left fun piece hp => ?_
  cases piece with
  | text s => rfl
  | hole parameter => rw [Piece.filled, Piece.filled, h parameter hp]

/-- Filled lines depend on the values of the parameters that the fragment uses. -/
theorem filledLines_congr {fragment : Fragment} {value value' : Parameter → String}
    (h : ∀ parameter, fragment.uses parameter → value parameter = value' parameter) :
    fragment.filledLines value = fragment.filledLines value' :=
  List.map_congr_left fun line hl => flatMap_filled_congr fun parameter hp => h parameter (uses_iff.2 ⟨line, hl, hp⟩)

/-- The pieces of a template, with the line feeds between its lines. -/
private def pieces (fragment : Fragment) : List Piece :=
  [Piece.text "\n"].intercalate fragment.lines

private theorem flatMap_pieces (fragment : Fragment) {f : Piece → List Char} (h : f (.text "\n") = ['\n']) :
    fragment.pieces.flatMap f = ['\n'].intercalate (fragment.lines.map (·.flatMap f)) := by
  rw [pieces, Text.flatMap_intercalate, List.flatMap_singleton, h]

private theorem toList_template (fragment : Fragment) :
    fragment.template.toList = fragment.pieces.flatMap Piece.chars := by
  rw [flatMap_pieces fragment rfl, template, Text.join, String.toList_ofList, List.map_map]
  congr 1
  exact List.map_congr_left fun line _ => String.toList_ofList

private theorem hole_mem_pieces_iff {fragment : Fragment} {parameter : Parameter} :
    .hole parameter ∈ fragment.pieces ↔ ∃ line ∈ fragment.lines, .hole parameter ∈ line := by
  refine ⟨fun hp => ?_, fun ⟨line, hl, hp⟩ => Text.mem_intercalate_of_mem hl hp⟩
  rcases Text.mem_intercalate hp with hp | hp
  · cases List.mem_singleton.1 hp
  · exact hp

private theorem plain_pieces {fragment : Fragment} (h : ∀ line ∈ fragment.lines, ∀ piece ∈ line, piece.Plain) :
    ∀ piece ∈ fragment.pieces, piece.Plain := by
  intro piece hp
  rcases Text.mem_intercalate hp with hp | ⟨line, hl, hp⟩
  · rw [List.mem_singleton.1 hp]
    exact (by decide : '{' ∉ "\n".toList)
  · exact h line hl piece hp

theorem isTemplate_template {fragment : Fragment} (h : ∀ line ∈ fragment.lines, ∀ piece ∈ line, piece.Plain) :
    Template.IsTemplate fragment.template.toList := by
  rw [toList_template]
  exact Piece.isTemplate_chars (plain_pieces h)

/-- The placeholders in a template are those that the fragment uses. -/
theorem mentions_eq_uses {fragment : Fragment} (h : ∀ line ∈ fragment.lines, ∀ piece ∈ line, piece.Plain)
    (parameter : Parameter) : fragment.mentions parameter = fragment.uses parameter := by
  rw [Bool.eq_iff_iff, mentions, Text.contains_iff, toList_template,
    Template.placeholder_infix_chars_iff (plain_pieces h), hole_mem_pieces_iff, uses_iff]

/-- Filling a fragment fills each of its lines. -/
theorem fill_template {fragment : Fragment} {parameters : List Parameter} {value : Parameter → String}
    (h : fragment.Takes parameters)
    (hv : ∀ parameter ∈ parameters.dropLast, '{' ∉ (value parameter).toList) :
    (Template.fill fragment.template (parameters.map fun parameter => (parameter.name, value parameter))).toList =
      ['\n'].intercalate (fragment.filledLines value) := by
  have hplain : ∀ line ∈ fragment.lines, ∀ piece ∈ line, piece.Plain :=
    fun line hl piece hp => (h line hl piece hp).plain
  have hholes : ∀ parameter, .hole parameter ∈ fragment.pieces → parameter ∈ parameters := by
    intro parameter hp
    obtain ⟨line, hl, hp⟩ := hole_mem_pieces_iff.1 hp
    exact h line hl _ hp
  have hvalues : ∀ binding ∈ (Template.bindingsOf value parameters).dropLast, '{' ∉ binding.2.toList := by
    intro binding hb
    rw [Template.bindingsOf, ← List.map_dropLast] at hb
    obtain ⟨parameter, hp, rfl⟩ := List.mem_map.1 hb
    exact hv parameter hp
  calc (Template.fill fragment.template (Template.bindingsOf value parameters)).toList
    _ = Template.substitute (Template.bindingsOf value parameters) (fragment.pieces.flatMap Piece.chars) := by
      rw [Template.fill, String.toList_ofList, Template.foldl_bindChars (isTemplate_template hplain)
        Template.close_not_mem_bindingsOf hvalues, toList_template]
    _ = fragment.pieces.flatMap (Piece.filled value) := Template.substitute_chars (plain_pieces hplain) hholes
    _ = ['\n'].intercalate (fragment.filledLines value) := flatMap_pieces fragment rfl

end Fragment

end TableScript
