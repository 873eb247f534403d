import TableScript.Proofs.Script.Steps
import TableScript.Proofs.Script.Variables

/-!
# The declared symbols of stages

What a stage declares to require and to produce under some options is what its text reads and assigns.  The
declaration looks at the options and the text at the scope, and a walk keeps the two together: the scope is split at
a step just if the options split the data (`generated_stages_use_declared`).
-/

namespace TableScript

theorem assigned_filled {symbol : Symbol} {lines : List (List Char)} :
    Assigned symbol (filled lines) ↔ Assigned symbol lines := by
  have hempty : Line.assigns [] = [] := by decide
  constructor
  · rintro ⟨line, hl, hs⟩
    exact ⟨line, List.mem_of_mem_filter hl, hs⟩
  · rintro ⟨line, hl, hs⟩
    refine ⟨line, List.mem_filter.2 ⟨hl, ?_⟩, hs⟩
    cases line with
    | nil => simp [hempty] at hs
    | cons c line => rfl

theorem UsesExactly.of_filled {required produced : List Symbol} {lines : List (List Char)}
    (h : UsesExactly required produced (filled lines)) : UsesExactly required produced lines :=
  ⟨fun symbol => mem_openSymbols_filled.symm.trans (h.reads symbol),
    fun symbol => assigned_filled.symm.trans (h.assigns symbol)⟩

/-- What a stage produces under some options, when the scope is split just if the options split the data. -/
theorem StageId.produces_eq_results {options : Options} {split : Bool} {id : StageId}
    (h : id = .scale ∨ id = .model → options.splitDataset = split) : id.stage.produces options = id.results split := by
  cases id with
  | scale => simp [StageId.stage, StageId.results, Options.splitOrWhole, h]
  | _ => rfl

theorem StageId.usesExactly_render {options : Options} (h : options.HasRandomState) {dataset : Dataset} {plan : Plan}
    {scope : Scope} {id : StageId} (hm : id = .model → options.selection.isSome) {text : String}
    (hr : (id.render options dataset plan scope).outcome = .ok text) :
    UsesExactly (id.inputs scope.isSplit) (id.results scope.isSplit) (Text.splitOn '\n' text.toList) := by
  have hheaded : HeadedAll (id.headings options) (id.blocks options dataset plan scope) := StageId.headed_blocks h hm
  have hlines : filled (Text.splitOn '\n' text.toList) = (id.blocks options dataset plan scope).flatten := by
    rw [StageId.render_toList h hr, hheaded.filled_splitOn_joinBlocks]
  refine UsesExactly.of_filled ?_
  rw [hlines]
  exact StageId.usesExactly_blocks h dataset plan scope id hm

/-- What holds of a step of a generation and of the text that it renders. -/
structure DeclaresUse (options : Options) (dataset : Dataset) (plan : Plan) (step : StageId × Scope) (text : String) :
    Prop where
  rendered : (step.1.render options dataset plan step.2).outcome = .ok text
  /-- The symbols that are read before they are assigned are those required, and those assigned are those produced. -/
  uses : UsesExactly (step.1.stage.requires options) (step.1.stage.produces options) (Text.splitOn '\n' text.toList)
  split : step.1 = .scale ∨ step.1 = .model → step.2.isSplit = options.splitDataset

/-- One step of a plan that was built renders a text that uses exactly what its stage declares. -/
theorem declaresUse_of_mem_steps {options : Options} (h : options.HasRandomState) {dataset : Dataset}
    {policy : AlgorithmPolicy} {plan : Plan} (hb : (Plan.build options policy).outcome = .ok plan)
    {step : StageId × Scope} (hs : step ∈ plan.steps options) {text : String}
    (hr : (step.1.render options dataset plan step.2).outcome = .ok text) :
    DeclaresUse options dataset plan step text := by
  have hsplit : step.1 = .scale ∨ step.1 = .model → step.2.isSplit = options.splitDataset :=
    Plan.isSplit_of_mem_steps hb hs
  have hmodel : step.1 = .model → options.selection.isSome :=
    fun hm => (Plan.selection_of_mem_stages hb (hm ▸ Plan.mem_stages_of_mem_steps hs)).1
  refine ⟨hr, ?_, hsplit⟩
  rw [StageId.requires_eq_inputs fun hid => (hsplit hid).symm, StageId.produces_eq_results fun hid => (hsplit hid).symm]
  exact StageId.usesExactly_render h hmodel hr

/-- Declared dependencies are the real ones: each step that a generation takes renders a text that reads exactly
what its stage requires under the options, and assigns exactly what it produces, and at the steps that look at it the
scope is split just if the options split the data. -/
theorem generated_stages_use_declared {settings : Settings} {options : Options} {plan : Plan}
    (hv : options.validate = .ok ()) (hb : (Plan.build options settings.unknownAlgorithm).outcome = .ok plan)
    (dataset : Dataset) :
    ∃ texts, (generate settings options (some dataset)).outcome = .ok (plan.script options texts) ∧
      (Generate.renderFrom options dataset plan [] plan.stages).outcome = .ok texts ∧
      List.Forall₂ (DeclaresUse options dataset plan) (plan.steps options) texts := by
  obtain ⟨texts, ht⟩ := Plan.texts_ok dataset hb
  have hwalk : (Generate.renderFrom options dataset plan [] plan.stages).outcome = .ok texts := by
    rw [Plan.renderFrom_outcome (Plan.validate_eq_ok_iff.1 (Plan.validate_of_build hb)).2]
    exact ht
  refine ⟨texts, generate_eq_ok_iff.2 ⟨hv, plan, texts, hb, ht, rfl⟩, hwalk, ?_⟩
  have hsteps := Plan.textsFrom_eq_ok_iff.1 ht
  rw [List.forall₂_iff_zip] at hsteps ⊢
  refine ⟨hsteps.1, fun hz => ?_⟩
  have hmem := (List.of_mem_zip hz).1
  exact declaresUse_of_mem_steps (Options.hasRandomState_of_validate hv) hb hmem (hsteps.2 hz)

/-- The steps of a tree classifier on split and scaled data, with a signed random state and a variable's name in the
name of the file. -/
theorem split_tree_uses_declared :
    let options : Options := { splitDataset := true, performScaling := true, family := some .classification,
                               algorithm := some .decisionTree, classificationRandomState := " +42 " }
    let dataset : Dataset := ⟨"X_train.csv", 1, ["a", "b"], [["1", "2"]]⟩
    let plan : Plan := ⟨[.load, .selectFeatures, .split, .scale, .model]⟩
    options.validate = .ok () ∧ (Plan.build options .error).outcome = .ok plan ∧
      ∃ texts, (generate {} options (some dataset)).outcome = .ok (plan.script options texts) ∧
        (Generate.renderFrom options dataset plan [] plan.stages).outcome = .ok texts ∧
        List.Forall₂ (DeclaresUse options dataset plan) (plan.steps options) texts := by
  intro options dataset plan
  have hv : options.validate = .ok () := by decide
  have hb : (Plan.build options .error).outcome = .ok plan := rfl
  exact ⟨hv, hb, generated_stages_use_declared hv hb dataset⟩

end TableScript
