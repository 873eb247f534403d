import TableScript.Proofs.Script.Generation
import TableScript.Proofs.Script.Steps

/-!
# Scripts with and without imports

The import lines of a script are collected twice over: behind numpy for the block of imports, and from nothing for
the lines that are reported as missing.  The two agree (`Plan.importLines_cons`), and no line is collected twice
(`Plan.nodup_importLines`).  So switching the imports on puts one block behind that which loads the dataset, made of
the lines that were missing before, and leaves the rest of the script as it is (`generate_with_imports`).
-/

namespace TableScript

/-! ### Collecting lines -/

theorem nodup_addImports {lines : List String} (h : lines.Nodup) (more : List String) :
    (addImports lines more).Nodup := by
  unfold addImports
  induction more generalizing lines with
  | nil => exact h
  | cons next more ih =>
    rw [List.foldl_cons]
    apply ih
    split
    · exact h
    · rename_i hnew
      have hnew : next ∉ lines := by simpa using hnew
      rw [List.nodup_append]
      refine ⟨h, by simp, ?_⟩
      rintro line hl other ho rfl
      rw [List.mem_singleton.1 ho] at hl
      exact hnew hl

/-- Adding lines to those that stand behind another one. -/
theorem addImports_cons_filter (line : String) (lines more : List String) :
    addImports (line :: lines.filter (· ≠ line)) more = line :: (addImports lines more).filter (· ≠ line) := by
  unfold addImports
  induction more generalizing lines with
  | nil => rfl
  | cons next more ih =>
    rw [List.foldl_cons, List.foldl_cons, ← ih]
    congr 1
    by_cases hnext : next = line
    · -- the line in front is never added again, and taken out where it is
      subst hnext
      have hfront : (next :: lines.filter (· ≠ next)).contains next = true := by simp
      rw [if_pos hfront]
      split
      · rfl
      · rw [List.filter_append]
        simp
    · have hfilter : (line :: lines.filter (· ≠ line)).contains next = lines.contains next := by
        rw [Bool.eq_iff_iff]
        simp [hnext]
      rw [hfilter]
      split
      · rfl
      · rw [List.filter_append]
        simp [hnext]

namespace Plan

variable (plan : Plan) (options : Options)

theorem nodup_importLines {first : List String} (h : first.Nodup) : (plan.importLines options first).Nodup := by
  unfold importLines
  induction plan.stages generalizing first with
  | nil => exact h
  | cons id ids ih =>
    rw [List.foldl_cons]
    exact ih (nodup_addImports h _)

/-- Collecting behind a line gives this line and the others that are collected without it. -/
theorem importLines_cons (line : String) (lines : List String) :
    plan.importLines options (line :: lines.filter (· ≠ line)) =
      line :: (plan.importLines options lines).filter (· ≠ line) := by
  unfold importLines
  induction plan.stages generalizing lines with
  | nil => rfl
  | cons id ids ih => rw [List.foldl_cons, List.foldl_cons, addImports_cons_filter, ih]

end Plan

/-! ### Switching the imports on -/

namespace Plan

variable {options : Options}

/-- Switching the imports on puts their stage behind the first one of a plan. -/
theorem build_with_imports (hoff : options.importLibraries = false) {policy : AlgorithmPolicy} {plan : Plan}
    (hb : (build options policy).outcome = .ok plan) :
    ∃ ids, plan.stages = .load :: ids ∧ .imports ∉ ids ∧
      (build { options with importLibraries := true } policy).outcome = .ok ⟨.load :: .imports :: ids⟩ := by
  let rest : List StageId := (StageId.all.drop 2).filter fun id => id.stage.active options
  have hrest : ∀ keep : StageId → Bool, .imports ∉ rest.filter keep := by
    intro keep hm
    have hdrop := List.mem_of_mem_filter (List.mem_of_mem_filter hm)
    exact absurd hdrop (by decide)
  have hactive : active options = .load :: rest := by
    have himports : StageId.imports.stage.active options = false := hoff
    simp only [active, StageId.all, rest, List.drop_succ_cons, List.drop_zero, List.filter_cons, himports]
    rfl
  have hactive' : active { options with importLibraries := true } = .load :: .imports :: rest := rfl
  have hunknown : unknownSelection? { options with importLibraries := true } = unknownSelection? options := rfl
  rw [build_outcome] at hb
  rw [build_outcome, hunknown, hactive']
  cases hu : unknownSelection? options with
  | none =>
    simp only [hu, hactive, Except.ok.injEq] at hb
    subst hb
    refine ⟨rest, rfl, ?_, rfl⟩
    simpa using hrest fun _ => true
  | some selection =>
    cases policy with
    | error => simp [hu] at hb
    | skip =>
      simp only [hu, hactive, Except.ok.injEq] at hb
      subst hb
      exact ⟨rest.filter (· ≠ .model), rfl, hrest _, rfl⟩

theorem sectionsFrom_with_imports (options : Options) (dataset : Dataset) (plan plan' : Plan) {ids : List StageId}
    (h : .imports ∉ ids) (scope : Scope) :
    sectionsFrom { options with importLibraries := true } dataset plan' scope ids =
      sectionsFrom options dataset plan scope ids := by
  induction ids generalizing scope with
  | nil => rfl
  | cons id ids ih =>
    simp only [List.mem_cons, not_or] at h
    have hblocks : id.blocks { options with importLibraries := true } dataset plan' scope =
        id.blocks options dataset plan scope := by
      cases id with
      | imports => exact absurd rfl h.1
      | _ => rfl
    have hproduces : id.stage.produces { options with importLibraries := true } = id.stage.produces options := by
      cases id <;> rfl
    rw [sectionsFrom, sectionsFrom, hblocks, hproduces, ih h.2]

end Plan

namespace Script

/-- A text is written as some blocks: they are what is read from it, and it is nothing but these blocks with one
blank line between them and a line feed at its end. -/
def WrittenAs (text : String) (blocks : List (List (List Char))) : Prop :=
  Script.blocks text = blocks ∧ text.toList = Text.joinBlocks blocks ++ ['\n']

/-- The block of imports that makes up for missing lines: numpy comes first. -/
def importBlock (missing : List String) : List (List Char) :=
  ("# Import libraries" :: Fragments.numpyImport :: missing.filter (· ≠ Fragments.numpyImport)).map String.toList

end Script

theorem Generated.writtenAs {options : Options} {dataset : Dataset} {plan : Plan} {script : Script}
    (h : Generated options dataset plan script) : Script.WrittenAs script.text (plan.blocks options dataset) :=
  ⟨h.blocks_text, h.text⟩

/-- Imports switched on against imports switched off: the same options give a script with the stage of imports behind
that which loads the dataset, without missing imports, and with one more block behind the block of that stage, which
holds numpy and then the lines that were missing before, in their order.  No missing line was reported twice. -/
theorem generate_with_imports {settings : Settings} {options : Options} {dataset : Dataset} {script : Script}
    (hoff : options.importLibraries = false) (h : (generate settings options (some dataset)).outcome = .ok script) :
    script.missingImports.Nodup ∧
    ∃ stages load blocks script', script.producedBy = .load :: stages ∧ Script.WrittenAs script.text (load :: blocks) ∧
      load.head? = some (StageId.heading .load).toList ∧
      (generate settings { options with importLibraries := true } (some dataset)).outcome = .ok script' ∧
      script'.producedBy = .load :: .imports :: stages ∧ script'.missingImports = [] ∧
      Script.WrittenAs script'.text (load :: Script.importBlock script.missingImports :: blocks) := by
  obtain ⟨plan, hb, hg, hmissing⟩ := exists_built h
  have hv : options.validate = .ok () := (generate_eq_ok_iff.1 h).1
  -- with the imports on, a plan with one more stage is built, and a script comes of it
  obtain ⟨ids, hstages, hnot, hb'⟩ := Plan.build_with_imports hoff hb
  have hv' : Options.validate { options with importLibraries := true } = .ok () := hv
  obtain ⟨script', h'⟩ := generate_ok_of_build hv' hb' dataset
  obtain ⟨plan', hb'', hg', hmissing'⟩ := exists_built h'
  obtain rfl : _ = plan' := Except.ok.inj (hb'.symm.trans hb'')
  rw [hoff] at hmissing
  simp only [Bool.false_eq_true, ↓reduceIte] at hmissing
  -- the stage of imports collects behind numpy what was collected from nothing for the missing lines
  have hlines : (⟨.load :: .imports :: ids⟩ : Plan).importLines { options with importLibraries := true }
      [Fragments.numpyImport] = Fragments.numpyImport :: script.missingImports.filter (· ≠ Fragments.numpyImport) := by
    have hplan : (⟨.load :: .imports :: ids⟩ : Plan).importLines { options with importLibraries := true }
        [Fragments.numpyImport] = plan.importLines options [Fragments.numpyImport] := by
      simp only [Plan.importLines, hstages]
      rfl
    rw [hplan, hmissing]
    exact plan.importLines_cons options Fragments.numpyImport []
  have hsections := Plan.sectionsFrom_with_imports options dataset plan ⟨.load :: .imports :: ids⟩ hnot [.dataset]
  refine ⟨?_, ids, Fragments.load.filledLines (Render.value options dataset []),
    (Plan.sectionsFrom options dataset plan [.dataset] ids).flatten, script', ?_, ?_, rfl, h', hg'.stages, ?_, ?_⟩
  · rw [hmissing]
    exact plan.nodup_importLines options List.nodup_nil
  · rw [hg.stages, hstages]
  · have hwritten := hg.writtenAs
    rw [Plan.blocks, hstages] at hwritten
    exact hwritten
  · rw [hmissing']
    rfl
  · have hblocks : Plan.blocks { options with importLibraries := true } dataset ⟨.load :: .imports :: ids⟩ =
        Fragments.load.filledLines (Render.value options dataset []) ::
          Script.importBlock script.missingImports :: (Plan.sectionsFrom options dataset plan [.dataset] ids).flatten := by
      rw [Script.importBlock, ← hlines, ← hsections]
      rfl
    rw [← hblocks]
    exact hg'.writtenAs

/-- Imputing missing values and encoding a column both need numpy, which is written once and first. -/
theorem generate_with_imports_of_shared_line :
    let options : Options := { categoricalFeature := true, handleMissingData := true }
    let dataset : Dataset := ⟨"d.csv", 0, ["a", "b"], []⟩
    ∃ script load blocks script', options.importLibraries = false ∧
      (generate {} options (some dataset)).outcome = .ok script ∧
      script.missingImports = [Fragments.numpyImport, "from sklearn.impute import SimpleImputer",
        "from sklearn.compose import ColumnTransformer", "from sklearn.preprocessing import OneHotEncoder"] ∧
      Script.WrittenAs script.text (load :: blocks) ∧
      (generate {} { options with importLibraries := true } (some dataset)).outcome = .ok script' ∧
      script'.producedBy = [.load, .imports, .selectFeatures, .imputeMissing, .encodeCategorical] ∧
      script'.missingImports = [] ∧
      Script.WrittenAs script'.text (load :: ["# Import libraries", "import numpy as np",
        "from sklearn.impute import SimpleImputer", "from sklearn.compose import ColumnTransformer",
        "from sklearn.preprocessing import OneHotEncoder"].map String.toList :: blocks) := by
  intro options dataset
  have h : (generate {} options (some dataset)).outcome = .ok _ := rfl
  obtain ⟨-, stages, load, blocks, script', hstages, hwritten, -, h', hstages', hmissing, hwritten'⟩ :=
    generate_with_imports rfl h
  obtain rfl : _ = stages := (List.cons.inj hstages).2
  exact ⟨_, load, blocks, script', rfl, h, by decide, hwritten, h', hstages', hmissing, hwritten'⟩

end TableScript
