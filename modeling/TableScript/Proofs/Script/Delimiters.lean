import TableScript.Proofs.Script.Line
import TableScript.Proofs.Script.Sections

/-!
# Delimited holes

Each hole of a fragment stands between two delimiters, which are characters that no value has but the literal of a
file name.  So a filled line determines the values in it (`Fragment.eq_of_filledLines_eq`).
-/

namespace TableScript

open Line

/-- A character that is neither part of a name nor a sign. -/
def Line.isDelimiter (c : Char) : Bool :=
  !isNameChar c && c ≠ '+'

/-- Values have no delimiters, except the literal of a file name. -/
theorem Render.isDelimiter_value {options : Options} {dataset : Dataset} {scope : Scope} (h : options.HasRandomState)
    {parameter : Parameter} (hp : parameter ≠ .fileLiteral) :
    ∀ c ∈ (value options dataset scope parameter).toList, isDelimiter c = false := by
  intro c hc
  rcases value_chars h hp c hc with hc | rfl | rfl
  · simp [isDelimiter, isNameChar, hc]
  · decide
  · decide

namespace Fragment

/-- Each hole in the rest of a line stands between delimiters, when `ended` says whether one stands before the rest. -/
def delimitedFrom (ended : Bool) : List Piece → Bool
  | [] => true
  | .text s :: pieces => delimitedFrom ((s.toList.getLast?.map isDelimiter).getD ended) pieces
  | .hole _ :: pieces => ended && (first? pieces).any isDelimiter && delimitedFrom false pieces

def Delimited (fragment : Fragment) : Prop :=
  ∀ line ∈ fragment.lines, delimitedFrom false line = true

instance : DecidablePred Delimited := fun fragment =>
  inferInstanceAs (Decidable (∀ line ∈ fragment.lines, delimitedFrom false line = true))

/-- A delimited line that has been filled determines the values in it. -/
private theorem eq_of_flatMap_filled_eq {value value' : Parameter → String} {ended : Bool} {pieces : List Piece}
    (hd : delimitedFrom ended pieces)
    (hv : ∀ parameter, .hole parameter ∈ pieces → ∀ c ∈ (value parameter).toList, isDelimiter c = false)
    (hv' : ∀ parameter, .hole parameter ∈ pieces → ∀ c ∈ (value' parameter).toList, isDelimiter c = false)
    (h : pieces.flatMap (Piece.filled value) = pieces.flatMap (Piece.filled value')) :
    ∀ parameter, .hole parameter ∈ pieces → value parameter = value' parameter := by
  induction pieces generalizing ended with
  | nil => simp
  | cons piece pieces ih =>
    have hrest : ∀ ended, delimitedFrom ended pieces →
        pieces.flatMap (Piece.filled value) = pieces.flatMap (Piece.filled value') →
        ∀ parameter, .hole parameter ∈ pieces → value parameter = value' parameter := fun _ hd =>
      ih hd (fun parameter hp => hv parameter (List.mem_cons_of_mem _ hp))
        (fun parameter hp => hv' parameter (List.mem_cons_of_mem _ hp))
    rw [List.flatMap_cons, List.flatMap_cons] at h
    cases piece with
    | text s =>
      intro parameter hp
      have hp : .hole parameter ∈ pieces := by simpa using hp
      exact hrest _ hd (List.append_cancel_left h) parameter hp
    | hole first =>
      simp only [delimitedFrom, Bool.and_eq_true] at hd
      obtain ⟨d, hdelim, hfollow⟩ := exists_cons_of_first? hd.1.2
      obtain ⟨rest, hr⟩ := hfollow value
      obtain ⟨rest', hr'⟩ := hfollow value'
      have hnot : ∀ text : List Char, (∀ c ∈ text, isDelimiter c = false) → d ∉ text := by
        intro text ht hm
        rw [ht d hm] at hdelim
        exact absurd hdelim (by decide)
      -- a value goes up to the first delimiter behind it
      have hfirst : value first = value' first := by
        have hsplit := congrArg (Text.splitOn d) h
        rw [hr, hr', Piece.filled, Piece.filled, Text.splitOn_append_cons (hnot _ (hv first (List.mem_cons_self ..))),
          Text.splitOn_append_cons (hnot _ (hv' first (List.mem_cons_self ..)))] at hsplit
        exact String.toList_inj.1 (List.cons.inj hsplit).1
      intro parameter hp
      rcases List.mem_cons.1 hp with hp | hp
      · rw [Piece.hole.inj hp]
        exact hfirst
      · rw [Piece.filled, Piece.filled, hfirst] at h
        exact hrest _ hd.2 (List.append_cancel_left h) parameter hp

/-- The filled lines of a fragment determine the values of the parameters that it uses. -/
theorem eq_of_filledLines_eq {fragment : Fragment} (hd : fragment.Delimited) {value value' : Parameter → String}
    (hv : ∀ parameter, fragment.uses parameter → ∀ c ∈ (value parameter).toList, isDelimiter c = false)
    (hv' : ∀ parameter, fragment.uses parameter → ∀ c ∈ (value' parameter).toList, isDelimiter c = false)
    (h : fragment.filledLines value = fragment.filledLines value') :
    ∀ parameter, fragment.uses parameter → value parameter = value' parameter := by
  intro parameter hu
  obtain ⟨line, hl, hp⟩ := uses_iff.1 hu
  have hline := List.map_inj_left.1 h line hl
  exact eq_of_flatMap_filled_eq (hd line hl) (fun p hm => hv p (uses_iff.2 ⟨line, hl, hm⟩))
    (fun p hm => hv' p (uses_iff.2 ⟨line, hl, hm⟩)) hline parameter hp

end Fragment

/-! ### All fragments -/

/-- The fragments of stages, algorithms and families. -/
def Fragments.all : List Fragment :=
  scaleSplit :: StageId.all.filterMap (·.fragment? []) ++ Algorithm.all.map (·.estimator) ++ Family.all.map (·.metric)

/-- The fragment of a stage is the one that it has without any symbols, or that of scaling split features. -/
theorem StageId.fragment?_cases {id : StageId} {scope : Scope} {fragment : Fragment}
    (h : id.fragment? scope = some fragment) : fragment = Fragments.scaleSplit ∨ id.fragment? [] = some fragment := by
  cases id with
  | scale =>
    obtain rfl := Option.some.inj h
    split
    · exact Or.inl rfl
    · exact Or.inr rfl
  | _ => exact Or.inr h

theorem StageId.fragment_mem_all {id : StageId} {scope : Scope} {fragment : Fragment}
    (h : id.fragment? scope = some fragment) : fragment ∈ Fragments.all := by
  simp only [Fragments.all, List.mem_append, List.mem_cons, List.mem_filterMap]
  rcases fragment?_cases h with hsplit | hid
  · exact Or.inl (Or.inl (Or.inl hsplit))
  · exact Or.inl (Or.inl (Or.inr ⟨id, mem_all id, hid⟩))

theorem Algorithm.estimator_mem_all (algorithm : Algorithm) : algorithm.estimator ∈ Fragments.all := by
  simp only [Fragments.all, List.mem_append, List.mem_map]
  exact Or.inl (Or.inr ⟨algorithm, mem_all algorithm, rfl⟩)

theorem Family.metric_mem_all (family : Family) : family.metric ∈ Fragments.all := by
  simp only [Fragments.all, List.mem_append, List.mem_map]
  exact Or.inr ⟨family, mem_all family, rfl⟩

theorem Fragments.delimited : ∀ fragment ∈ all, fragment.Delimited := by decide +kernel

/-- The lines that load the dataset have the same code whatever the name of its file is. -/
theorem Fragments.codeFrom_load {value value' : Parameter → String} {name name' : String}
    (h : value .fileLiteral = Literal.write name) (h' : value' .fileLiteral = Literal.write name') :
    ∀ line ∈ load.lines,
      codeFrom .code (line.flatMap (Piece.filled value)) = codeFrom .code (line.flatMap (Piece.filled value')) := by
  have hcode : Place.code.after "dataset = pd.read_csv(".toList = .code := by decide
  have hread : ∀ {value : Parameter → String} {name : String}, value .fileLiteral = Literal.write name →
      codeFrom .code ([.text "dataset = pd.read_csv(", .hole .fileLiteral, .text ")"].flatMap (Piece.filled value)) =
        codeFrom .code "dataset = pd.read_csv(".toList ++ ['\''] ++ codeFrom .code ")".toList := by
    intro value name h
    rw [← codeFrom_append_literal hcode name.toList]
    simp [Piece.filled, h, Literal.write]
  simp only [load, List.forall_mem_cons]
  refine ⟨rfl, rfl, ?_, rfl, rfl, rfl, by simp⟩
  rw [hread h, hread h']

end TableScript
