import Mathlib.Data.List.Forall2
import TableScript.Proofs.Script.Filling
import TableScript.Proofs.Script.Values
import TableScript.Proofs.Script.Walk

/-!
# Sections of scripts

The text of a stage is made of blocks of lines (`StageId.render_toList`).  A block stands under a heading, its lines
have no control characters, and no line but the heading begins with a number sign (`StageId.headed_blocks`).
-/

namespace TableScript

/-- A line of a block below its heading. -/
def BodyLine (line : List Char) : Prop :=
  (∀ c ∈ line, Text.isControl c = false) ∧ line.head?.any (· ≠ '#')

instance : DecidablePred BodyLine := fun line =>
  inferInstanceAs (Decidable ((∀ c ∈ line, Text.isControl c = false) ∧ line.head?.any (· ≠ '#')))

/-- A line that begins with a number sign. -/
def CommentLine (line : List Char) : Prop :=
  (∀ c ∈ line, Text.isControl c = false) ∧ line.head? = some '#'

instance : DecidablePred CommentLine := fun line =>
  inferInstanceAs (Decidable ((∀ c ∈ line, Text.isControl c = false) ∧ line.head? = some '#'))

/-- A heading and the lines below it. -/
structure Headed (heading : String) (block : List (List Char)) : Prop where
  comment : CommentLine heading.toList
  body : ∃ lines, block = heading.toList :: lines ∧ ∀ line ∈ lines, BodyLine line

namespace Fragment

/-- The first character of a line that begins with copied text. -/
def first? : List Piece → Option Char
  | .text s :: _ => s.toList.head?
  | _ => none

/-- The lines of a fragment copy no number sign to their beginning. -/
def Body (lines : List (List Piece)) : Prop :=
  ∀ line ∈ lines, (first? line).any (· ≠ '#')

instance : DecidablePred Body := fun lines =>
  inferInstanceAs (Decidable (∀ line ∈ lines, (first? line).any (· ≠ '#')))

/-- A line that begins with copied text begins with the same character whatever the values are. -/
theorem exists_cons_of_first? {p : Char → Bool} {pieces : List Piece} (h : (first? pieces).any p) :
    ∃ c, p c ∧ ∀ value, ∃ rest, pieces.flatMap (Piece.filled value) = c :: rest := by
  cases pieces with
  | nil => simp [first?] at h
  | cons piece pieces =>
    cases piece with
    | hole parameter => simp [first?] at h
    | text s =>
      simp only [first?] at h
      cases hs : s.toList with
      | nil => simp [hs] at h
      | cons c more =>
        refine ⟨c, by simpa [hs] using h, fun value => ⟨more ++ pieces.flatMap (Piece.filled value), ?_⟩⟩
        rw [List.flatMap_cons, Piece.filled, hs, List.cons_append]

theorem bodyLine_of_mem_filledLines {parameters : List Parameter} {value : Parameter → String} {fragment : Fragment}
    (ht : fragment.Takes parameters) (hv : ∀ parameter, ∀ c ∈ (value parameter).toList, Text.isControl c = false)
    {pieces : List Piece} (hp : pieces ∈ fragment.lines) (hb : (first? pieces).any (· ≠ '#')) :
    BodyLine (pieces.flatMap (Piece.filled value)) := by
  constructor
  · intro c hc
    obtain ⟨piece, hm, hc⟩ := List.mem_flatMap.1 hc
    have hfits := ht pieces hp piece hm
    cases piece with
    | text s => exact (hfits c hc).2
    | hole parameter => exact hv parameter c hc
  · obtain ⟨c, hc, hfollow⟩ := exists_cons_of_first? hb
    obtain ⟨rest, hrest⟩ := hfollow value
    rw [hrest]
    exact hc

/-- A fragment that begins with a heading fills to a block under this heading. -/
theorem headed_filledLines {parameters : List Parameter} {value : Parameter → String} {fragment : Fragment}
    {heading : String} {lines : List (List Piece)} (hc : CommentLine heading.toList) (ht : fragment.Takes parameters)
    (hv : ∀ parameter, ∀ c ∈ (value parameter).toList, Text.isControl c = false)
    (hl : fragment.lines = [.text heading] :: lines) (hb : Body lines) :
    Headed heading (fragment.filledLines value) := by
  refine ⟨hc, lines.map (·.flatMap (Piece.filled value)), ?_, ?_⟩
  · simp [filledLines, hl, Piece.filled]
  · intro line hm
    obtain ⟨pieces, hp, rfl⟩ := List.mem_map.1 hm
    exact bodyLine_of_mem_filledLines ht hv (by simp [hl, hp]) (hb pieces hp)

end Fragment

namespace StageId

/-- The comment at the head of the last block of a stage. -/
def heading : StageId → String
  | .load => "# Load dataset"
  | .imports => "# Import libraries"
  | .dropFirstColumn => "# Drop first column"
  | .selectFeatures => "# Select features and target"
  | .imputeMissing => "# Handle missing data"
  | .encodeCategorical => "# Encode categorical data"
  | .encodeTarget => "# Encode target labels"
  | .split => "# Split dataset into training and test set"
  | .scale => "# Feature scaling"
  | .model => "# Evaluate model"

theorem commentLine_heading (id : StageId) : CommentLine id.heading.toList :=
  (by decide +kernel : ∀ id ∈ all, CommentLine id.heading.toList) id (mem_all id)

/-- The comments at the heads of the blocks of a stage: the model has one block for its algorithm and one for the
evaluation. -/
def headings (options : Options) : StageId → List String
  | .model => (options.algorithm.map fun algorithm => "# " ++ algorithm.label).toList ++ [heading .model]
  | id => [id.heading]

/-- The blocks of lines that a stage has under given options. -/
def blocks (options : Options) (dataset : Dataset) (plan : Plan) (scope : Scope) : StageId → List (List (List Char))
  | .imports => [("# Import libraries" :: plan.importLines options [Fragments.numpyImport]).map String.toList]
  | .model => match options.selection with
    | some (family, algorithm) =>
      let value := Render.value options dataset scope
      [("# " ++ algorithm.label).toList :: algorithm.estimator.filledLines value, family.metric.filledLines value]
    | none => []
  | id => ((id.fragment? scope).map (·.filledLines (Render.value options dataset scope))).toList

/-- The parameters of the fragment of a stage. -/
def parameters : StageId → List Parameter
  | .load => [.fileLiteral]
  | .encodeCategorical => [.column]
  | .model => Render.modelParameters
  | _ => []

theorem takes_fragment {id : StageId} {scope : Scope} {fragment : Fragment} (h : id.fragment? scope = some fragment) :
    fragment.Takes id.parameters ∧ ∃ lines, fragment.lines = [.text id.heading] :: lines ∧ Fragment.Body lines := by
  cases id with
  | imports | model => cases h
  | scale =>
    obtain rfl := Option.some.inj h
    split
    · exact ⟨by decide +kernel, _, rfl, by decide +kernel⟩
    · exact ⟨by decide +kernel, _, rfl, by decide +kernel⟩
  | _ =>
    obtain rfl := Option.some.inj h
    exact ⟨by decide +kernel, _, rfl, by decide +kernel⟩

end StageId

theorem Algorithm.commentLine_label (algorithm : Algorithm) : CommentLine ("# " ++ algorithm.label).toList := by
  have h : ∀ algorithm ∈ all, CommentLine ('#' :: ' ' :: algorithm.label.toList) := by decide
  rw [String.toList_append]
  exact h algorithm (mem_all algorithm)

theorem Algorithm.takes_estimator (algorithm : Algorithm) :
    algorithm.estimator.Takes Render.modelParameters ∧ Fragment.Body algorithm.estimator.lines :=
  (by decide +kernel : ∀ algorithm ∈ Algorithm.all, algorithm.estimator.Takes Render.modelParameters ∧
    Fragment.Body algorithm.estimator.lines) algorithm (mem_all algorithm)

theorem Algorithm.lines_estimator_ne_nil (algorithm : Algorithm) : algorithm.estimator.lines ≠ [] :=
  (by decide : ∀ algorithm ∈ Algorithm.all, algorithm.estimator.lines ≠ []) algorithm (mem_all algorithm)

theorem Family.takes_metric (family : Family) : family.metric.Takes Render.modelParameters ∧
    ∃ lines, family.metric.lines = [.text (StageId.heading .model)] :: lines ∧ Fragment.Body lines := by
  cases family with
  | classification => exact ⟨by decide +kernel, _, rfl, by decide +kernel⟩
  | regression => exact ⟨by decide +kernel, _, rfl, by decide +kernel⟩

/-! ### Import lines -/

theorem mem_addImports {lines more : List String} {line : String} :
    line ∈ addImports lines more ↔ line ∈ lines ∨ line ∈ more := by
  unfold addImports
  induction more generalizing lines with
  | nil => simp
  | cons next more ih =>
    rw [List.foldl_cons, ih]
    split
    · rename_i h
      have h : next ∈ lines := by simpa using h
      grind
    · simp [or_assoc]

theorem Plan.mem_importLines {plan : Plan} {options : Options} {first : List String} {line : String} :
    line ∈ plan.importLines options first ↔ line ∈ first ∨ ∃ id ∈ plan.stages, line ∈ id.importLines options := by
  unfold importLines
  induction plan.stages generalizing first with
  | nil => simp
  | cons id ids ih =>
    rw [List.foldl_cons, ih, mem_addImports]
    simp [or_assoc]

/-- The import lines of all fragments. -/
def Fragments.importLines : List String :=
  numpyImport :: (StageId.all.flatMap fun id => ((id.fragment? []).map Fragment.imports).getD []) ++
    Algorithm.all.flatMap (·.estimator.imports) ++ Family.all.flatMap (·.metric.imports)

theorem Fragments.bodyLine_importLines : ∀ line ∈ importLines, BodyLine line.toList := by
  simp only [Text.toList_eq_charsOf]
  decide +kernel

theorem StageId.importLines_subset (options : Options) (id : StageId) :
    ∀ line ∈ id.importLines options, line ∈ Fragments.importLines := by
  intro line h
  have hfragment : line ∈ ((id.fragment? []).map Fragment.imports).getD [] → line ∈ Fragments.importLines := by
    intro h
    simp only [Fragments.importLines, List.cons_append, List.mem_cons, List.mem_append, List.mem_flatMap]
    exact Or.inr (Or.inl (Or.inl ⟨id, mem_all id, h⟩))
  cases id with
  | imports => simp [importLines] at h
  | model =>
    simp only [importLines] at h
    split at h
    · rename_i family algorithm hs
      rw [Family.estimator?_eq] at h
      split at h
      · rename_i estimator he
        split at he
        · obtain rfl := Option.some.inj he
          simp only [Fragments.importLines, List.cons_append, List.mem_cons, List.mem_append, List.mem_flatMap]
          rcases List.mem_append.1 h with h | h
          · exact Or.inr (Or.inl (Or.inr ⟨algorithm, Algorithm.mem_all algorithm, h⟩))
          · exact Or.inr (Or.inr ⟨family, Family.mem_all family, h⟩)
        · cases he
      · simp at h
    · simp at h
  | _ => exact hfragment h

/-- The lines under the heading of the imports are import lines of fragments. -/
theorem Plan.importLines_subset (plan : Plan) (options : Options) :
    ∀ line ∈ plan.importLines options [Fragments.numpyImport], line ∈ Fragments.importLines := by
  intro line h
  rcases mem_importLines.1 h with h | ⟨id, -, h⟩
  · rw [List.mem_singleton.1 h]
    simp [Fragments.importLines]
  · exact id.importLines_subset options line h

/-! ### The text of a stage -/

namespace StageId

variable {options : Options} {dataset : Dataset} {plan : Plan} {scope : Scope}

/-- The blocks of a stage stand under its headings. -/
theorem headed_blocks (h : options.HasRandomState) {id : StageId} (hm : id = .model → options.selection.isSome) :
    List.Forall₂ Headed (id.headings options) (id.blocks options dataset plan scope) := by
  have hv : ∀ parameter, ∀ c ∈ (Render.value options dataset scope parameter).toList, Text.isControl c = false :=
    fun parameter => Render.isControl_value h parameter
  have hf : ∀ fragment, id.fragment? scope = some fragment →
      Headed id.heading (fragment.filledLines (Render.value options dataset scope)) := by
    intro fragment hf
    obtain ⟨ht, lines, hl, hb⟩ := takes_fragment hf
    exact Fragment.headed_filledLines id.commentLine_heading ht hv hl hb
  cases id with
  | imports =>
    refine List.Forall₂.cons ⟨commentLine_heading .imports, _, rfl, ?_⟩ List.Forall₂.nil
    intro chars hc
    obtain ⟨line, hl, rfl⟩ := List.mem_map.1 hc
    exact Fragments.bodyLine_importLines line (plan.importLines_subset options line hl)
  | model =>
    obtain ⟨⟨family, algorithm⟩, hs⟩ := Option.isSome_iff_exists.1 (hm rfl)
    have ha := (Options.selection_eq_some_iff.1 hs).2
    simp only [headings, ha, Option.map_some, Option.toList_some, List.singleton_append, blocks, hs]
    refine List.Forall₂.cons ⟨algorithm.commentLine_label, _, rfl, ?_⟩ (List.Forall₂.cons ?_ List.Forall₂.nil)
    · intro line hm
      obtain ⟨pieces, hp, rfl⟩ := List.mem_map.1 hm
      exact Fragment.bodyLine_of_mem_filledLines algorithm.takes_estimator.1 hv hp
        (algorithm.takes_estimator.2 pieces hp)
    · obtain ⟨ht, lines, hl, hb⟩ := family.takes_metric
      exact Fragment.headed_filledLines (commentLine_heading .model) ht hv hl hb
  | _ => exact List.Forall₂.cons (hf _ rfl) List.Forall₂.nil

/-- A stage with a fragment of its own has one block. -/
theorem blocks_of_fragment {id : StageId} {fragment : Fragment} (hf : id.fragment? scope = some fragment) :
    id.blocks options dataset plan scope = [fragment.filledLines (Render.value options dataset scope)] := by
  cases id with
  | imports | model => cases hf
  | _ =>
    obtain rfl := Option.some.inj hf
    rfl

/-- The text of a stage with a fragment of its own is the filled fragment. -/
private theorem render_of_fragment {id : StageId} {fragment : Fragment} {text : String}
    (hf : id.fragment? scope = some fragment) (hr : (id.render options dataset plan scope).outcome = .ok text) :
    text = Template.fill fragment.template
      (id.parameters.map fun parameter => (parameter.name, Render.value options dataset scope parameter)) := by
  have hnil : ∀ template : String, template = Template.fill template [] := by simp [Template.fill]
  cases id with
  | imports | model => cases hf
  | load =>
    obtain rfl := Option.some.inj hf
    exact (Except.ok.inj hr).symm
  | encodeCategorical =>
    obtain rfl := Option.some.inj hf
    simp only [render] at hr
    split at hr <;> exact (Except.ok.inj hr).symm
  | _ =>
    obtain rfl := Option.some.inj hf
    obtain rfl := Except.ok.inj hr
    exact hnil _

/-- The text of the model, when there is one. -/
private theorem toList_model (h : options.HasRandomState) {text : String}
    (hr : Render.model options scope = .ok text) :
    text.toList = Text.joinBlocks (StageId.model.blocks options dataset plan scope) := by
  have hv : ∀ parameter ∈ Render.modelParameters.dropLast,
      '{' ∉ (Render.value options dataset scope parameter).toList := by
    intro parameter hp
    refine Render.brace_not_mem_value h ?_
    rintro rfl
    revert hp
    decide
  cases hs : options.selection with
  | none =>
    simp only [Render.model, hs, Except.ok.injEq] at hr
    subst hr
    simp [blocks, hs, Text.joinBlocks]
  | some selection =>
    obtain ⟨family, algorithm⟩ := selection
    have hf := (Options.selection_eq_some_iff.1 hs).1
    simp only [Render.model, hs, Family.estimator?_eq] at hr
    split at hr
    · cases hr
    · rename_i estimator he
      split at he
      · obtain rfl := Option.some.inj he
        rw [Render.modelBindings_eq hf dataset] at hr
        obtain rfl := Except.ok.inj hr
        have hfit := Fragment.fill_template algorithm.takes_estimator.1 hv
        have hscore := Fragment.fill_template family.takes_metric.1 hv
        have hlines : algorithm.estimator.filledLines (Render.value options dataset scope) ≠ [] := by
          simpa [Fragment.filledLines] using algorithm.lines_estimator_ne_nil
        simp only [String.toList_append, hfit, hscore, blocks, hs, Text.joinBlocks, List.map_cons, List.map_nil,
          List.intercalate_cons_cons, List.intercalate_singleton, List.intercalate_cons_of_ne_nil hlines]
        rfl
      · cases he

/-- The text of a stage is its blocks with a blank line between them. -/
theorem render_toList (h : options.HasRandomState) {id : StageId} {text : String}
    (hr : (id.render options dataset plan scope).outcome = .ok text) :
    text.toList = Text.joinBlocks (id.blocks options dataset plan scope) := by
  cases hf : id.fragment? scope with
  | some fragment =>
    have hv : ∀ parameter ∈ id.parameters.dropLast,
        '{' ∉ (Render.value options dataset scope parameter).toList := by
      cases id with
      | model => cases hf
      | _ => simp [parameters]
    rw [render_of_fragment hf hr, blocks_of_fragment hf, Text.joinBlocks, List.map_singleton, List.intercalate_singleton]
    exact Fragment.fill_template (takes_fragment hf).1 hv
  | none =>
    cases id with
    | imports =>
      obtain rfl := Except.ok.inj hr
      simp [Render.imports, Text.join, blocks, Text.joinBlocks]
    | model =>
      simp only [render, Traced.outcome_ofExcept] at hr
      exact toList_model h hr
    | _ => cases hf

end StageId

end TableScript
