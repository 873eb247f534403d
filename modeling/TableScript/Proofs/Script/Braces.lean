import TableScript.Proofs.Script.Delimiters
import TableScript.Proofs.Script.Steps

/-!
# Braces in scripts

No placeholder is left in a script, and no value makes a new one: the copied text of fragments has no braces of its
own (`Fragments.braceless`), and of the values only the literal of the file name may have some.  This literal is
written where the dataset is loaded and nowhere else, so its line is the only one with braces, and they stand inside
the literal (`braces_only_in_file_literal`).
-/

namespace TableScript

theorem Render.braceless_value {options : Options} {dataset : Dataset} {scope : Scope} (h : options.HasRandomState)
    {parameter : Parameter} (hp : parameter ≠ .fileLiteral) :
    Braceless (value options dataset scope parameter).toList := by
  intro c hc
  rcases value_chars h hp c hc with hc | rfl | rfl
  · constructor
    · rintro rfl
      exact absurd hc (by decide)
    · rintro rfl
      exact absurd hc (by decide)
  · decide
  · decide

namespace Fragment

/-- The text that a fragment copies has no braces, but for those of its placeholders. -/
def CopiesNoBrace (fragment : Fragment) : Prop :=
  ∀ line ∈ fragment.lines, ∀ piece ∈ line, Braceless (piece.filled fun _ => "")

instance : DecidablePred CopiesNoBrace := fun fragment =>
  inferInstanceAs (Decidable (∀ line ∈ fragment.lines, ∀ piece ∈ line, Braceless (piece.filled fun _ => "")))

theorem CopiesNoBrace.plain {fragment : Fragment} (h : fragment.CopiesNoBrace) :
    ∀ line ∈ fragment.lines, ∀ piece ∈ line, piece.Plain := by
  intro line hl piece hp
  cases piece with
  | text s => exact (h line hl _ hp).open_not_mem
  | hole parameter => trivial

/-- A line that is filled with values without braces has none. -/
theorem CopiesNoBrace.braceless_filledLines {fragment : Fragment} (h : fragment.CopiesNoBrace)
    {value : Parameter → String} (hv : ∀ parameter, fragment.uses parameter → Braceless (value parameter).toList) :
    ∀ line ∈ fragment.filledLines value, Braceless line := by
  intro line hl c hc
  obtain ⟨pieces, hp, rfl⟩ := List.mem_map.1 hl
  obtain ⟨piece, hm, hc⟩ := List.mem_flatMap.1 hc
  cases piece with
  | text s => exact h pieces hp _ hm c hc
  | hole parameter => exact hv parameter (uses_iff.2 ⟨pieces, hp, hm⟩) c hc

end Fragment

namespace Fragments

theorem copiesNoBrace : ∀ fragment ∈ all, fragment.CopiesNoBrace := by
  simp only [Fragment.CopiesNoBrace, Piece.filled_eq_filledChars]
  decide +kernel

/-- The fragments have templates that are filled in a single pass. -/
theorem closed_template : ∀ fragment ∈ all, Template.Closed fragment.template.toList :=
  fun fragment hf => Template.isTemplate_iff.1 (Fragment.isTemplate_template (copiesNoBrace fragment hf).plain)

theorem braceless_importLines : ∀ line ∈ importLines, Braceless line.toList := by
  simp only [Text.toList_eq_charsOf]
  decide

end Fragments

/-- Only the fragment that loads the dataset has the literal of the file name. -/
theorem StageId.ne_fileLiteral_of_uses {id : StageId} (hid : id ≠ .load) {scope : Scope} {fragment : Fragment}
    (hf : id.fragment? scope = some fragment) {parameter : Parameter} (hu : fragment.uses parameter) :
    parameter ≠ .fileLiteral := by
  have hmem : parameter ∈ id.parameters := (takes_fragment hf).1.mem_of_uses hu
  cases id with
  | load => exact absurd rfl hid
  | encodeCategorical =>
    rw [List.mem_singleton.1 hmem]
    decide
  | imports | model => cases hf
  | _ => cases hmem

section

variable {options : Options} {dataset : Dataset} {plan : Plan} {scope : Scope}

/-- The lines of a stage behind the one that loads the dataset have no braces. -/
theorem StageId.braceless_blocks (h : options.HasRandomState) {id : StageId} (hid : id ≠ .load) :
    ∀ line ∈ (id.blocks options dataset plan scope).flatten, Braceless line := by
  have hmodel : ∀ {fragment : Fragment}, fragment ∈ Fragments.all → fragment.Takes Render.modelParameters →
      ∀ line ∈ fragment.filledLines (Render.value options dataset scope), Braceless line := by
    intro fragment hall htakes
    refine (Fragments.copiesNoBrace _ hall).braceless_filledLines fun parameter hu => Render.braceless_value h ?_
    rintro rfl
    exact absurd (htakes.mem_of_uses hu) (by decide)
  cases hf : id.fragment? scope with
  | some fragment =>
    rw [blocks_of_fragment hf, List.flatten_singleton]
    exact (Fragments.copiesNoBrace _ (fragment_mem_all hf)).braceless_filledLines fun parameter hu =>
      Render.braceless_value h (ne_fileLiteral_of_uses hid hf hu)
  | none =>
    cases id with
    | imports =>
      intro line hl
      rw [blocks, List.flatten_singleton, List.map_cons, List.mem_cons, List.mem_map] at hl
      rcases hl with rfl | ⟨text, ht, rfl⟩
      · decide
      · exact Fragments.braceless_importLines text (plan.importLines_subset options text ht)
    | model =>
      rw [blocks]
      split
      · rename_i family algorithm hs
        have hlabel : ∀ algorithm ∈ Algorithm.all, Braceless ('#' :: ' ' :: algorithm.label.toList) := by
          decide
        intro line hl
        rw [List.flatten_cons, List.flatten_singleton, List.cons_append, List.mem_cons, List.mem_append,
          String.toList_append] at hl
        rcases hl with rfl | hl | hl
        · exact hlabel algorithm (Algorithm.mem_all algorithm)
        · exact hmodel algorithm.estimator_mem_all algorithm.takes_estimator.1 line hl
        · exact hmodel family.metric_mem_all family.takes_metric.1 line hl
      · simp
    | _ => cases hf

/-- A plan that has been built loads the dataset first and only once. -/
theorem Plan.exists_load_cons {policy : AlgorithmPolicy} (h : (build options policy).outcome = .ok plan) :
    ∃ ids, plan.stages = .load :: ids ∧ .load ∉ ids := by
  obtain ⟨keep, hstages, -, hkeep, -⟩ := stages_of_build h
  have hload : keep .load := hkeep .load (by decide) rfl
  refine ⟨_, by rw [hstages, StageId.all, List.filter_cons_of_pos hload], fun hmem => ?_⟩
  exact absurd (List.mem_of_mem_filter hmem) (by decide)

/-- The blocks of a plan that has been built: the one that loads the dataset, and others without braces. -/
theorem Plan.blocks_eq_load_cons {policy : AlgorithmPolicy} (hb : (build options policy).outcome = .ok plan)
    (h : options.HasRandomState) (dataset : Dataset) :
    ∃ blocks, plan.blocks options dataset =
        Fragments.load.filledLines (Render.value options dataset []) :: blocks ∧
      ∀ block ∈ blocks, ∀ line ∈ block, Braceless line := by
  obtain ⟨ids, hstages, hnot⟩ := exists_load_cons hb
  refine ⟨(sectionsFrom options dataset plan (Scope.extend [] (StageId.load.stage.produces options)) ids).flatten,
    by rw [Plan.blocks, hstages]; rfl, fun block hblock line hl => ?_⟩
  rw [sectionsFrom_eq_map, ← List.flatMap_def, List.mem_flatMap] at hblock
  obtain ⟨⟨id, held⟩, hstep, hblock⟩ := hblock
  have hid : id ∈ ids := by
    have hfirst := List.mem_map_of_mem (f := Prod.fst) hstep
    rwa [map_fst_stepsFrom] at hfirst
  have hne : id ≠ .load := fun he => hnot (he ▸ hid)
  exact StageId.braceless_blocks h hne line (List.mem_flatten.2 ⟨block, hblock, hl⟩)

end

/-- The lines that load the dataset. -/
theorem Fragments.filledLines_load (options : Options) (dataset : Dataset) (scope : Scope) :
    load.filledLines (Render.value options dataset scope) =
      "# Load dataset".toList :: "import pandas as pd".toList ::
        ("dataset = pd.read_csv(".toList ++ (Literal.write dataset.fileName).toList ++ ")".toList) ::
        ["print('Dataset shape:', dataset.shape)".toList, "print('Dataset info:')".toList,
          "dataset.info()".toList] := by
  simp [load, Fragment.filledLines, Piece.filled, Render.value]

/-- The braces of a generated script.  Its third line reads the file, whose name it writes as a literal; the braces of
this literal are those of the file name, even if the name looks like a placeholder, and there are no others, neither
in this line nor in another. -/
theorem braces_only_in_file_literal {settings : Settings} {options : Options} {dataset : Dataset} {script : Script}
    (h : (generate settings options (some dataset)).outcome = .ok script) :
    ∃ rest, Text.splitOn '\n' script.text.toList =
        "# Load dataset".toList :: "import pandas as pd".toList ::
          ("dataset = pd.read_csv(".toList ++ (Literal.write dataset.fileName).toList ++ ")".toList) :: rest ∧
      ∀ line ∈ rest, Braceless line := by
  obtain ⟨plan, hbuild, hgenerated, -⟩ := exists_built h
  obtain ⟨blocks, hblocks, hbraceless⟩ := Plan.blocks_eq_load_cons hbuild hgenerated.hasRandomState dataset
  obtain ⟨more, hmore, hfrom⟩ :=
    Text.exists_intercalate_cons [[]] (Fragments.load.filledLines (Render.value options dataset [])) blocks
  have hlines : Text.splitOn '\n' script.text.toList =
      Fragments.load.filledLines (Render.value options dataset []) ++ (more ++ [[]]) := by
    rw [hgenerated.text, Text.splitOn_append_cons_append, hgenerated.headed.splitOn_joinBlocks hgenerated.blocks_ne_nil,
      Text.splitOn_of_not_mem (by simp), hblocks, hmore, List.append_assoc]
  rw [Fragments.filledLines_load] at hlines
  refine ⟨_, hlines, fun line hl => ?_⟩
  have hcopied : ∀ line ∈ ["print('Dataset shape:', dataset.shape)".toList, "print('Dataset info:')".toList,
      "dataset.info()".toList], Braceless line := by decide
  have hempty : Braceless [] := by decide
  rcases List.mem_append.1 hl with hl | hl
  · exact hcopied line hl
  · rcases List.mem_append.1 hl with hl | hl
    · rcases hfrom line hl with hl | ⟨block, hb, hl⟩
      · exact List.mem_singleton.1 hl ▸ hempty
      · exact hbraceless block hb line hl
    · exact List.mem_singleton.1 hl ▸ hempty

/-- A file name that is made of placeholders stays as it is. -/
theorem braces_of_placeholder_name : ∃ script,
    (generate {} {} (some ⟨"\x7bfile_literal\x7d\x7bcolumn\x7d", 0, [], []⟩)).outcome = .ok script ∧
      ∃ rest, Text.splitOn '\n' script.text.toList =
        "# Load dataset".toList :: "import pandas as pd".toList ::
          "dataset = pd.read_csv('\x7bfile_literal\x7d\x7bcolumn\x7d')".toList :: rest ∧
        ∀ line ∈ rest, Braceless line := by
  have h : (generate {} {} (some ⟨"\x7bfile_literal\x7d\x7bcolumn\x7d", 0, [], []⟩)).outcome = .ok _ := rfl
  obtain ⟨rest, hlines, hbraceless⟩ := braces_only_in_file_literal h
  exact ⟨_, h, rest, hlines, hbraceless⟩

end TableScript
