import TableScript.Proofs.Script.Delimiters
import TableScript.Proofs.Script.Layout

/-!
# Variables of scripts

A variable is open in some lines if one of them reads it before any of them assigns it.  The open variables of a
stage are among those that the stage requires, and the stage assigns what it produces (`uses_blocks`), so the lines
of a valid plan have no open variables (`variables_definedBeforeUse`).  What a stage requires and produces is told by the
options and its text by the scope; the invariant that joins the two is `Covers`.
-/

namespace TableScript

/-- The symbol with a name. -/
def Symbol.named? (name : List Char) : Option Symbol :=
  all.find? fun symbol => symbol.name.toList = name

theorem Symbol.named?_eq_some_iff {name : List Char} {symbol : Symbol} :
    named? name = some symbol ↔ name = symbol.name.toList := by
  have hnamed : ∀ symbol : Symbol, named? symbol.name.toList = some symbol := by
    intro symbol
    cases symbol <;> decide
  constructor
  · intro h
    simpa [eq_comm] using List.find?_some h
  · rintro rfl
    exact hnamed symbol

namespace Line

/-- The variables that a line reads. -/
def reads (line : List Char) : List Symbol :=
  (read line).filterMap Symbol.named?

/-- The variables that a line assigns. -/
def assigns (line : List Char) : List Symbol :=
  (assigned line).filterMap Symbol.named?

theorem mem_reads {symbol : Symbol} {line : List Char} : symbol ∈ reads line ↔ symbol.name.toList ∈ read line := by
  simp [reads, Symbol.named?_eq_some_iff]

theorem mem_assigns {symbol : Symbol} {line : List Char} :
    symbol ∈ assigns line ↔ symbol.name.toList ∈ assigned line := by
  simp [assigns, Symbol.named?_eq_some_iff]

end Line

/-- Every variable that a line reads has been assigned by an earlier line. -/
def DefinedBeforeUse (lines : List (List Char)) : Prop :=
  ∀ before line after, lines = before ++ line :: after → ∀ symbol : Symbol, symbol.name.toList ∈ Line.read line →
    ∃ earlier ∈ before, symbol.name.toList ∈ Line.assigned earlier

open Line

/-- The variables that some lines read before they assign them. -/
def openSymbols : List (List Char) → List Symbol
  | [] => []
  | line :: lines => reads line ++ (openSymbols lines).filter fun symbol => !(assigns line).contains symbol

/-- One of some lines assigns a variable. -/
def Assigned (symbol : Symbol) (lines : List (List Char)) : Prop :=
  ∃ line ∈ lines, symbol ∈ assigns line

section

variable {symbol : Symbol} {line : List Char} {lines more : List (List Char)}

theorem mem_openSymbols_cons :
    symbol ∈ openSymbols (line :: lines) ↔ symbol ∈ reads line ∨ symbol ∈ openSymbols lines ∧ symbol ∉ assigns line := by
  simp [openSymbols]

theorem assigned_append : Assigned symbol (lines ++ more) ↔ Assigned symbol lines ∨ Assigned symbol more := by
  simp [Assigned, or_and_right, exists_or]

theorem mem_openSymbols_append : symbol ∈ openSymbols (lines ++ more) ↔
    symbol ∈ openSymbols lines ∨ symbol ∈ openSymbols more ∧ ¬Assigned symbol lines := by
  induction lines with
  | nil => simp [openSymbols, Assigned]
  | cons line lines ih =>
    rw [List.cons_append, mem_openSymbols_cons, mem_openSymbols_cons, ih]
    simp only [Assigned, List.exists_mem_cons_iff, not_or]
    grind

theorem mem_openSymbols_iff : symbol ∈ openSymbols lines ↔
    ∃ before line after, lines = before ++ line :: after ∧ symbol ∈ reads line ∧ ¬Assigned symbol before := by
  induction lines with
  | nil => simp [openSymbols]
  | cons first lines ih =>
    rw [mem_openSymbols_cons, ih]
    constructor
    · rintro (h | ⟨⟨before, line, after, rfl, hr, ha⟩, hf⟩)
      · exact ⟨[], first, lines, rfl, h, by simp [Assigned]⟩
      · refine ⟨first :: before, line, after, rfl, hr, ?_⟩
        simpa [Assigned, hf] using ha
    · rintro ⟨before, line, after, he, hr, ha⟩
      cases before with
      | nil =>
        obtain ⟨rfl, rfl⟩ := List.cons.inj he
        exact Or.inl hr
      | cons other before =>
        obtain ⟨rfl, rfl⟩ := List.cons.inj he
        simp only [Assigned, List.exists_mem_cons_iff, not_or] at ha
        exact Or.inr ⟨⟨before, line, after, rfl, hr, ha.2⟩, ha.1⟩

theorem definedBeforeUse_iff : DefinedBeforeUse lines ↔ openSymbols lines = [] := by
  rw [List.eq_nil_iff_forall_not_mem]
  simp only [mem_openSymbols_iff, DefinedBeforeUse, Assigned, mem_reads, mem_assigns]
  constructor
  · rintro h symbol ⟨before, line, after, he, hr, ha⟩
    exact ha (h before line after he symbol hr)
  · intro h before line after he symbol hr
    by_contra ha
    exact h symbol ⟨before, line, after, he, hr, ha⟩

end

/-! ### Lines alike -/

/-- Lines that assign and read the same variables. -/
def SameUse (u v : List Char) : Prop :=
  ∀ symbol : Symbol, (symbol ∈ assigns u ↔ symbol ∈ assigns v) ∧ (symbol ∈ reads u ↔ symbol ∈ reads v)

theorem Line.Alike.sameUse {u v : List Char} (h : Alike u v) : SameUse u v := by
  intro symbol
  simpa [mem_reads, mem_assigns] using h [] [] symbol

section

variable {lines others : List (List Char)} (h : List.Forall₂ SameUse lines others) (symbol : Symbol)

include h

theorem assigned_congr : Assigned symbol lines ↔ Assigned symbol others := by
  induction h with
  | nil => exact Iff.rfl
  | cons hl _ ih =>
    simp only [Assigned, List.exists_mem_cons_iff, (hl symbol).1] at ih ⊢
    rw [ih]

theorem openSymbols_congr : symbol ∈ openSymbols lines ↔ symbol ∈ openSymbols others := by
  induction h with
  | nil => exact Iff.rfl
  | cons hl _ ih => rw [mem_openSymbols_cons, mem_openSymbols_cons, (hl symbol).1, (hl symbol).2, ih]

end

/-! ### Samples of values -/

namespace Line

/-- A word with a digit is no variable. -/
theorem isMark_digits {digits : List Char} (hne : digits ≠ []) (h : ∀ c ∈ digits, c.isDigit) : IsMark digits := by
  have hsymbol : ∀ symbol : Symbol, ∀ c ∈ symbol.name.toList, c.isDigit = false := by
    intro symbol
    cases symbol <;> decide
  refine ⟨⟨hne, fun c hc => by simp [isNameChar, Char.isAlphanum, h c hc]⟩, ?_⟩
  obtain ⟨c, digits, rfl⟩ := List.exists_cons_of_ne_nil hne
  refine ⟨c, by simp, fun symbol hc => ?_⟩
  have hdigit := h c (by simp)
  rw [hsymbol symbol c hc] at hdigit
  cases hdigit

theorem isMark_criterion (criterion : Criterion) : IsMark criterion.name.toList := by
  have hforeign : ∀ c ∈ ['g', 'o'], ∀ symbol : Symbol, c ∉ symbol.name.toList := by
    intro c hc symbol
    revert c
    cases symbol <;> decide
  cases criterion with
  | gini => exact ⟨⟨by decide, by decide⟩, 'g', by decide, hforeign _ (by decide)⟩
  | entropy | logLoss => exact ⟨⟨by decide, by decide⟩, 'o', by decide, hforeign _ (by decide)⟩

theorem isMark_none : IsMark "None".toList := by
  refine ⟨⟨by decide, by decide⟩, 'N', by decide, fun symbol => ?_⟩
  cases symbol <;> decide

end Line

namespace Render

/-- Values that stand for those of any options: `split` says whether the data are split, and `signed` whether the
random state has a sign. -/
def sample (split signed : Bool) : Parameter → String
  | .fileLiteral => Literal.write ""
  | .xFit => (if split then Symbol.xTrain else .x).name
  | .yFit => (if split then Symbol.yTrain else .y).name
  | .xEval => (if split then Symbol.xTest else .x).name
  | .yEval => (if split then Symbol.yTest else .y).name
  | .randomState => if signed then "+0" else "0"
  | .column | .criterion | .degree => "0"

variable {options : Options} (h : options.HasRandomState) (dataset : Dataset) (scope : Scope)

include h

theorem exists_alike_randomState :
    ∃ signed, Alike (value options dataset scope .randomState).toList (sample scope.isSplit signed .randomState).toList := by
  have hzero : IsMark "0".toList := isMark_digits (by decide) (by decide)
  simp only [value, sample]
  cases hf : options.family with
  | none => exact ⟨false, Alike.refl _⟩
  | some family =>
    simp only [Option.map_some, Option.getD_some]
    rcases Options.randomState_shape (h family hf) with he | ⟨digits, ⟨hne, hd⟩, he | he⟩
    · exact ⟨false, by rw [he]; exact alike_marks isMark_none hzero⟩
    · exact ⟨false, by rw [he]; exact alike_marks (isMark_digits hne hd) hzero⟩
    · refine ⟨true, ?_⟩
      rw [he]
      exact (Alike.refl ['+']).append (alike_marks (isMark_digits hne hd) hzero)

/-- Some sample reads and assigns the same variables as the values of given options. -/
theorem exists_alike_value : ∃ signed, ∀ parameter ≠ .fileLiteral,
    Alike (value options dataset scope parameter).toList (sample scope.isSplit signed parameter).toList := by
  have hzero : IsMark "0".toList := isMark_digits (by decide) (by decide)
  have hdecimal : ∀ n, Alike (Text.decimal n).toList "0".toList := by
    intro n
    rw [Text.decimal, String.toList_ofList]
    exact alike_marks (isMark_digits (Text.decimalChars_ne_nil n) (Text.isDigit_of_mem_decimalChars n)) hzero
  obtain ⟨signed, hstate⟩ := exists_alike_randomState h dataset scope
  refine ⟨signed, fun parameter hp => ?_⟩
  cases parameter with
  | fileLiteral => exact absurd rfl hp
  | column | degree => exact hdecimal _
  | xFit | yFit | xEval | yEval => exact Alike.refl _
  | criterion => exact alike_marks (isMark_criterion _) hzero
  | randomState => exact hstate

theorem exists_sameUse_filledLines : ∃ signed, ∀ fragment parameters, Fragment.Takes parameters fragment →
    .fileLiteral ∉ parameters → List.Forall₂ SameUse (fragment.filledLines (value options dataset scope))
      (fragment.filledLines (sample scope.isSplit signed)) := by
  obtain ⟨signed, hvalue⟩ := exists_alike_value h dataset scope
  refine ⟨signed, fun fragment parameters ht hp => ?_⟩
  rw [Fragment.filledLines, Fragment.filledLines, List.forall₂_map_left_iff, List.forall₂_map_right_iff,
    List.forall₂_same]
  intro line hl
  refine (Alike.flatMap fun piece hm => ?_).sameUse
  cases piece with
  | text s => exact Alike.refl _
  | hole parameter =>
    refine hvalue parameter ?_
    rintro rfl
    exact hp (ht line hl _ hm)

end Render

/-! ### The variables of a stage -/

/-- Some lines read only what is required before they assign it, and assign what is produced. -/
def Uses (required produced : List Symbol) (lines : List (List Char)) : Prop :=
  (∀ symbol ∈ openSymbols lines, symbol ∈ required) ∧ ∀ symbol ∈ produced, Assigned symbol lines

/-- Some lines read exactly what is required before they assign it, and assign exactly what is produced. -/
structure UsesExactly (required produced : List Symbol) (lines : List (List Char)) : Prop where
  reads : ∀ symbol, symbol ∈ openSymbols lines ↔ symbol ∈ required
  assigns : ∀ symbol, Assigned symbol lines ↔ symbol ∈ produced

section

variable {required produced : List Symbol} {lines others : List (List Char)}

theorem assigned_iff {symbol : Symbol} : Assigned symbol lines ↔ symbol ∈ lines.flatMap assigns := by
  simp [Assigned]

theorem usesExactly_iff : UsesExactly required produced lines ↔
    ((∀ symbol ∈ openSymbols lines, symbol ∈ required) ∧ ∀ symbol ∈ required, symbol ∈ openSymbols lines) ∧
      (∀ symbol ∈ lines.flatMap assigns, symbol ∈ produced) ∧ ∀ symbol ∈ produced, symbol ∈ lines.flatMap assigns := by
  simp only [← assigned_iff]
  constructor
  · rintro ⟨hr, ha⟩
    exact ⟨⟨fun symbol => (hr symbol).1, fun symbol => (hr symbol).2⟩,
      fun symbol => (ha symbol).1, fun symbol => (ha symbol).2⟩
  · rintro ⟨⟨hr, hr'⟩, ha, ha'⟩
    exact ⟨fun symbol => ⟨hr symbol, hr' symbol⟩, fun symbol => ⟨ha symbol, ha' symbol⟩⟩

instance : Decidable (UsesExactly required produced lines) :=
  decidable_of_iff _ usesExactly_iff.symm

theorem UsesExactly.congr (h : UsesExactly required produced others) (hs : List.Forall₂ SameUse lines others) :
    UsesExactly required produced lines :=
  ⟨fun symbol => (openSymbols_congr hs symbol).trans (h.reads symbol),
    fun symbol => (assigned_congr hs symbol).trans (h.assigns symbol)⟩

/-- A line that neither reads nor assigns a variable may stand in front. -/
theorem UsesExactly.cons {line : List Char} (h : UsesExactly required produced lines) (hr : Line.reads line = [])
    (ha : Line.assigns line = []) : UsesExactly required produced (line :: lines) := by
  constructor
  · intro symbol
    rw [mem_openSymbols_cons, hr, ha, ← h.reads symbol]
    simp
  · intro symbol
    rw [← h.assigns symbol]
    simp [Assigned, ha]

/-- Lines that neither read nor assign a variable. -/
theorem usesExactly_nil (h : ∀ line ∈ lines, reads line = [] ∧ assigns line = []) : UsesExactly [] [] lines := by
  induction lines with
  | nil => exact ⟨by simp [openSymbols], by simp [Assigned]⟩
  | cons line lines ih =>
    rw [List.forall_mem_cons] at h
    exact (ih h.2).cons h.1.1 h.1.2

end

/-- A comment neither reads nor assigns a variable. -/
theorem comment_uses_nothing {line : List Char} (h : CommentLine line) : reads line = [] ∧ assigns line = [] := by
  obtain ⟨text, rfl⟩ := List.head?_eq_some_iff.1 h.2
  have hsides : sides ('#' :: text) = ([], ['#']) := by
    rw [sides, codeFrom_comment]
    rfl
  rw [reads, assigns, Line.read.eq_1, assigned, hsides]
  decide

namespace StageId

/-- What a stage requires when the data are split or not. -/
def inputs (split : Bool) (id : StageId) : List Symbol :=
  id.stage.requires { splitDataset := split }

/-- What a stage produces when the data are split or not. -/
def results (split : Bool) (id : StageId) : List Symbol :=
  id.stage.produces { splitDataset := split }

/-- What later stages may require of a stage, when the data are split or not. -/
def outputs (split : Bool) (id : StageId) : List Symbol :=
  (id.stage.produces { splitDataset := split }).filter (· ≠ .yPred)

end StageId

namespace Render

/-- The variables that estimators are fitted to and predict from. -/
def fitted (split : Bool) : List Symbol :=
  if split then [.xTrain, .yTrain, .xTest] else [.x, .y]

/-- The variables that predictions are scored against. -/
def scored (split : Bool) : List Symbol :=
  if split then [.yTest] else [.y]

end Render

private theorem StageId.usesExactly_sample {id : StageId} {scope : Scope} {fragment : Fragment}
    (hf : id.fragment? scope = some fragment) (signed : Bool) :
    UsesExactly (id.inputs scope.isSplit) (id.results scope.isSplit)
      (fragment.filledLines (Render.sample scope.isSplit signed)) := by
  cases id with
  | imports | model => cases hf
  | _ =>
    obtain rfl := Option.some.inj hf
    generalize scope.isSplit = split
    revert split signed
    simp only [Fragment.filledLines, Piece.filled_eq_filledChars]
    decide +kernel

private theorem Algorithm.usesExactly_sample (algorithm : Algorithm) (split signed : Bool) :
    UsesExactly (Render.fitted split) [.yPred] (algorithm.estimator.filledLines (Render.sample split signed)) := by
  have hall : ∀ algorithm ∈ all, ∀ split signed,
      UsesExactly (Render.fitted split) [.yPred] (algorithm.estimator.filledLines (Render.sample split signed)) := by
    simp only [Fragment.filledLines, Piece.filled_eq_filledChars]
    decide
  exact hall algorithm (mem_all algorithm) split signed

private theorem Family.usesExactly_sample (family : Family) (split signed : Bool) :
    UsesExactly (.yPred :: Render.scored split) [] (family.metric.filledLines (Render.sample split signed)) := by
  have hall : ∀ family ∈ all, ∀ split signed,
      UsesExactly (.yPred :: Render.scored split) [] (family.metric.filledLines (Render.sample split signed)) := by
    simp only [Fragment.filledLines, Piece.filled_eq_filledChars]
    decide
  exact hall family (mem_all family) split signed

private theorem uses_importLines :
    ∀ line ∈ Fragments.importLines, reads line.toList = [] ∧ assigns line.toList = [] := by
  simp only [Text.toList_eq_charsOf]
  decide

namespace StageId

variable {options : Options} (h : options.HasRandomState) (dataset : Dataset) (plan : Plan) (scope : Scope)

/-- The lines that load the dataset assign it, whatever the name of its file is. -/
private theorem sameUse_load (dataset : Dataset) (scope : Scope) : List.Forall₂ SameUse
    (Fragments.load.filledLines (Render.value options dataset scope))
    (Fragments.load.filledLines (Render.sample scope.isSplit false)) := by
  have hsame : ∀ {u v : List Char}, codeFrom .code u = codeFrom .code v → SameUse u v := by
    intro u v h symbol
    simp [mem_reads, mem_assigns, Line.read, assigned, sides, h]
  rw [Fragment.filledLines, Fragment.filledLines, List.forall₂_map_left_iff, List.forall₂_map_right_iff,
    List.forall₂_same]
  exact fun line hl => hsame (Fragments.codeFrom_load rfl rfl line hl)

include h

private theorem usesExactly_model {family : Family} {algorithm : Algorithm}
    (hs : options.selection = some (family, algorithm)) : UsesExactly (inputs scope.isSplit .model) [.yPred]
    (blocks options dataset plan scope .model).flatten := by
  obtain ⟨signed, hsame⟩ := Render.exists_sameUse_filledLines h dataset scope
  have hfit := (algorithm.usesExactly_sample scope.isSplit signed).congr
    (hsame _ _ algorithm.takes_estimator.1 (by decide))
  have hscore := (family.usesExactly_sample scope.isSplit signed).congr
    (hsame _ _ family.takes_metric.1 (by decide))
  obtain ⟨hlabel, hlabel'⟩ := comment_uses_nothing algorithm.commentLine_label
  simp only [blocks, hs, List.flatten_cons, List.flatten_nil, List.append_nil, List.cons_append]
  refine UsesExactly.cons ⟨fun symbol => ?_, fun symbol => ?_⟩ hlabel hlabel'
  · -- the metric reads the predictions, and the estimator has made them
    rw [mem_openSymbols_append, hfit.reads, hscore.reads, hfit.assigns]
    generalize scope.isSplit = split
    revert split
    cases symbol <;> decide
  · rw [assigned_append, hfit.assigns, hscore.assigns]
    simp

/-- The text of a stage requires exactly its inputs and assigns exactly its results. -/
theorem usesExactly_blocks (id : StageId) (hm : id = .model → options.selection.isSome) :
    UsesExactly (id.inputs scope.isSplit) (id.results scope.isSplit)
      (id.blocks options dataset plan scope).flatten := by
  cases hf : id.fragment? scope with
  | some fragment =>
    rw [blocks_of_fragment hf, List.flatten_singleton]
    by_cases hload : id = .load
    · subst hload
      obtain rfl := Option.some.inj hf
      exact (usesExactly_sample hf false).congr (sameUse_load dataset scope)
    · obtain ⟨signed, hsame⟩ := Render.exists_sameUse_filledLines h dataset scope
      refine (usesExactly_sample hf signed).congr (hsame _ _ (takes_fragment hf).1 ?_)
      cases id with
      | load => exact absurd rfl hload
      | _ => decide
  | none =>
    cases id with
    | imports =>
      refine usesExactly_nil fun line hl => ?_
      rw [blocks, List.flatten_singleton, List.map_cons, List.mem_cons] at hl
      rcases hl with rfl | hl
      · exact comment_uses_nothing (commentLine_heading .imports)
      · obtain ⟨text, ht, rfl⟩ := List.mem_map.1 hl
        exact uses_importLines text (plan.importLines_subset options text ht)
    | model =>
      obtain ⟨⟨family, algorithm⟩, hs⟩ := Option.isSome_iff_exists.1 (hm rfl)
      exact usesExactly_model h dataset plan scope hs
    | _ => cases hf

/-- The text of a stage requires no more than its inputs and assigns its outputs. -/
theorem uses_blocks (id : StageId) : Uses (id.inputs scope.isSplit) (id.outputs scope.isSplit)
    (id.blocks options dataset plan scope).flatten := by
  by_cases hm : id = .model → options.selection.isSome
  · have hexact := usesExactly_blocks h dataset plan scope id hm
    exact ⟨fun symbol hs => (hexact.reads symbol).1 hs,
      fun symbol hs => (hexact.assigns symbol).2 (List.mem_of_mem_filter hs)⟩
  · -- a model without a selection has no text
    rw [Classical.not_imp] at hm
    obtain ⟨rfl, hs⟩ := hm
    have hnone : options.selection = none := by simpa using hs
    have hout : outputs scope.isSplit .model = [] := by
      generalize scope.isSplit = split
      revert split
      decide
    rw [hout]
    exact ⟨fun symbol hs => by simp [blocks, hnone, openSymbols] at hs, by simp⟩

end StageId

/-! ### The variables of a plan -/

/-- The symbols of the split data. -/
def splitSymbols : List Symbol := [.xTrain, .xTest, .yTrain, .yTest]

/-- What the scope of a walk says of the lines so far: they have assigned its symbols, and it has all symbols of the
split data if it has the training features.  The predictions are left out, since a model without a selection has no
text, and no stage requires them. -/
structure Covers (scope : Scope) (lines : List (List Char)) : Prop where
  assigned : ∀ symbol ∈ scope, symbol ≠ .yPred → Assigned symbol lines
  split : .xTrain ∈ scope → ∀ symbol ∈ splitSymbols, symbol ∈ scope

/-- What a stage requires under some options, when the scope is split just if the options split the data. -/
theorem StageId.requires_eq_inputs {options : Options} {split : Bool} {id : StageId}
    (h : id = .scale ∨ id = .model → options.splitDataset = split) : id.stage.requires options = id.inputs split := by
  cases id with
  | scale | model => simp [StageId.stage, StageId.inputs, Options.splitOrWhole, h]
  | _ => rfl

namespace Covers

variable {options : Options} {scope : Scope} {lines : List (List Char)} (hc : Covers scope lines) {id : StageId}
  (hr : ∀ symbol ∈ id.stage.requires options, symbol ∈ scope)

include hc hr

/-- The inputs that the text of a stage has by the scope are in the scope. -/
theorem inputs_subset : ∀ symbol ∈ id.inputs scope.isSplit, symbol ∈ scope := by
  intro symbol hs
  by_cases hid : id = .scale ∨ id = .model
  · cases hsplit : scope.isSplit with
    | true =>
      have hx : .xTrain ∈ scope := by
        simp only [Scope.isSplit, Bool.and_eq_true, List.contains_iff_mem] at hsplit
        exact hsplit.1
      refine hc.split hx symbol ?_
      rw [hsplit] at hs
      revert hs
      rcases hid with rfl | rfl <;> revert symbol <;> decide
    | false =>
      -- options that split the data would have put the split features into the scope
      have hoptions : options.splitDataset = false := by
        by_contra ho
        have hx : .xTrain ∈ scope ∧ .xTest ∈ scope := by
          rcases hid with rfl | rfl <;> exact ⟨hr .xTrain (by simp [StageId.stage, Options.splitOrWhole, ho]),
            hr .xTest (by simp [StageId.stage, Options.splitOrWhole, ho])⟩
        simp [Scope.isSplit, hx] at hsplit
      rw [hsplit, ← StageId.requires_eq_inputs fun _ => hoptions] at hs
      exact hr symbol hs
  · rw [← StageId.requires_eq_inputs fun h => absurd h hid] at hs
    exact hr symbol hs

theorem assigned_inputs : ∀ symbol ∈ id.inputs scope.isSplit, Assigned symbol lines := by
  intro symbol hs
  refine hc.assigned symbol (hc.inputs_subset hr symbol hs) ?_
  rintro rfl
  revert hs
  generalize scope.isSplit = split
  revert split
  cases id <;> decide

/-- One more stage is covered by one more text that assigns its outputs. -/
theorem extend {more : List (List Char)} (hm : ∀ symbol ∈ id.outputs scope.isSplit, Assigned symbol more) :
    Covers (scope.extend (id.stage.produces options)) (lines ++ more) := by
  constructor
  · intro symbol hs hne
    rw [assigned_append]
    rcases List.mem_append.1 hs with hs | hs
    · exact Or.inl (hc.assigned symbol hs hne)
    · by_cases hid : id = .scale
      · subst hid
        exact Or.inl (hc.assigned symbol (hr symbol hs) hne)
      · refine Or.inr (hm symbol ?_)
        rw [StageId.outputs, List.mem_filter]
        refine ⟨?_, by simpa using hne⟩
        cases id with
        | scale => exact absurd rfl hid
        | _ => exact hs
  · intro hx symbol hs
    rcases List.mem_append.1 hx with hx | hx
    · exact List.mem_append_left _ (hc.split hx symbol hs)
    · cases id with
      | scale => exact List.mem_append_left _ (hc.split (hr _ hx) symbol hs)
      | split => exact List.mem_append_right _ hs
      | _ => exact absurd hx (by simp [StageId.stage, Stage.fixed])

end Covers

/-- The lines of stages that are supplied read no variable before it has been assigned. -/
theorem openSymbols_sectionsFrom {options : Options} (h : options.HasRandomState) (dataset : Dataset) (plan : Plan)
    {ids : List StageId} {scope : Scope} {lines : List (List Char)} (hs : Plan.Supplied options scope ids)
    (hc : Covers scope lines) : ∀ symbol ∈ openSymbols (Plan.sectionsFrom options dataset plan scope ids).flatten.flatten,
      Assigned symbol lines := by
  induction ids generalizing scope lines with
  | nil => simp [Plan.sectionsFrom, openSymbols]
  | cons id ids ih =>
    rw [Plan.supplied_cons] at hs
    obtain ⟨hopen, hout⟩ := StageId.uses_blocks h dataset plan scope id
    intro symbol hm
    rw [Plan.sectionsFrom, List.flatten_cons, List.flatten_append, mem_openSymbols_append] at hm
    rcases hm with hm | ⟨hm, hn⟩
    · exact hc.assigned_inputs hs.1 symbol (hopen symbol hm)
    · have hmade := ih hs.2 (hc.extend hs.1 hout) symbol hm
      exact (assigned_append.1 hmade).resolve_right hn

/-! ### The variables of a text -/

/-- The lines of some texts, one text after another. -/
def linesOf (texts : List String) : List (List Char) :=
  texts.flatMap fun text => Text.splitOn '\n' text.toList

/-- Empty lines open no variables. -/
theorem mem_openSymbols_filled {symbol : Symbol} {lines : List (List Char)} :
    symbol ∈ openSymbols (filled lines) ↔ symbol ∈ openSymbols lines := by
  induction lines with
  | nil => exact Iff.rfl
  | cons line lines ih =>
    cases line with
    | nil =>
      have hreads : reads [] = [] := by decide
      have hassigns : assigns [] = [] := by decide
      rw [mem_openSymbols_cons, hreads, hassigns, ← ih]
      simp [filled]
    | cons c line =>
      rw [filled, List.filter_cons_of_pos (by simp), mem_openSymbols_cons, mem_openSymbols_cons]
      rw [← ih, filled]

namespace Plan

variable {options : Options} {dataset : Dataset} {plan : Plan}

private theorem filled_linesOf (h : options.HasRandomState) {ids : List StageId} {scope : Scope} {texts : List String}
    (ht : textsFrom options dataset plan scope ids = .ok texts) :
    filled (linesOf texts) = (sectionsFrom options dataset plan scope ids).flatten.flatten := by
  induction ids generalizing scope texts with
  | nil =>
    obtain rfl := Except.ok.inj ht
    rfl
  | cons id ids ih =>
    obtain ⟨text, more, hr, hm, rfl⟩ := textsFrom_cons_eq_ok_iff.1 ht
    have hheaded : ∃ headings, HeadedAll headings (id.blocks options dataset plan scope) := by
      by_cases hs : id = .model → options.selection.isSome
      · exact ⟨_, StageId.headed_blocks h hs⟩
      · rw [Classical.not_imp] at hs
        obtain ⟨rfl, hs⟩ := hs
        have hnone : options.selection = none := by simpa using hs
        exact ⟨[], by simp [StageId.blocks, hnone]⟩
    obtain ⟨headings, hheaded⟩ := hheaded
    have hfirst := hheaded.filled_splitOn_joinBlocks
    have hrest := ih hm
    simp only [filled, linesOf] at hfirst hrest ⊢
    rw [List.flatMap_cons, List.filter_append, StageId.render_toList h hr, hfirst, hrest, sectionsFrom,
      List.flatten_cons, List.flatten_append]

/-- The sections of a valid plan have no open variables. -/
private theorem openSymbols_sections (h : options.HasRandomState) (hv : plan.validate options = .ok ()) :
    ∀ symbol, symbol ∉ openSymbols (sectionsFrom options dataset plan [] plan.stages).flatten.flatten := by
  intro symbol hm
  obtain ⟨line, hl, -⟩ := openSymbols_sectionsFrom h dataset plan (validate_eq_ok_iff.1 hv).2
    (⟨by simp, by simp⟩ : Covers [] []) symbol hm
  simp at hl

theorem definedBeforeUse_linesOf (h : options.HasRandomState) (hv : plan.validate options = .ok ())
    {texts : List String} (ht : plan.texts options dataset = .ok texts) : DefinedBeforeUse (linesOf texts) := by
  rw [definedBeforeUse_iff, List.eq_nil_iff_forall_not_mem]
  intro symbol hm
  rw [← mem_openSymbols_filled, filled_linesOf h ht] at hm
  exact openSymbols_sections h hv symbol hm

end Plan

/-- No line of a generated script reads a variable that no earlier line has assigned. -/
theorem Generated.definedBeforeUse {options : Options} {dataset : Dataset} {plan : Plan} {script : Script}
    (h : Generated options dataset plan script) : DefinedBeforeUse (Text.splitOn '\n' script.text.toList) := by
  rw [definedBeforeUse_iff, List.eq_nil_iff_forall_not_mem]
  intro symbol hm
  rw [← mem_openSymbols_filled, h.filled_lines] at hm
  exact Plan.openSymbols_sections h.hasRandomState h.valid symbol hm

/-- Lines read only variables that earlier lines have assigned: in the texts of any valid plan, whichever options it
was built from, as long as the random state of the chosen family is one, and in every script that is generated. -/
theorem variables_definedBeforeUse :
    (∀ (options : Options) (dataset : Dataset) (plan : Plan) (texts : List String), options.HasRandomState →
      plan.validate options = .ok () → plan.texts options dataset = .ok texts → DefinedBeforeUse (linesOf texts)) ∧
    ∀ (settings : Settings) (options : Options) (dataset? : Option Dataset) (script : Script),
      (generate settings options dataset?).outcome = .ok script →
        DefinedBeforeUse (Text.splitOn '\n' script.text.toList) := by
  refine ⟨fun options dataset plan texts h hv ht => Plan.definedBeforeUse_linesOf h hv ht, ?_⟩
  intro settings options dataset? script h
  cases dataset? with
  | some dataset =>
    obtain ⟨plan, hg⟩ := exists_generated h
    exact hg.definedBeforeUse
  | none =>
    cases hv : options.validate with
    | error e => simp [generate, hv, error_bind] at h
    | ok _ =>
      simp only [generate, hv, Traced.outcome_bind, Traced.outcome_ofExcept, ok_bind, Traced.outcome_tell] at h
      obtain rfl := Except.ok.inj h
      rw [definedBeforeUse_iff]
      decide

/-- A plan made by hand, which scales the data although the options do not ask for it, and the script for the same
options. -/
theorem variables_definedBeforeUse_of_unasked_scaling :
    let options : Options :=
      { splitDataset := true, family := some .classification, algorithm := some .logisticRegression,
        classificationRandomState := " 7 " }
    let plan : Plan := ⟨[.load, .selectFeatures, .split, .scale, .model]⟩
    plan.stages ≠ Plan.active options ∧
    (∃ texts, plan.texts options ⟨"d.csv", 0, [], []⟩ = .ok texts ∧ DefinedBeforeUse (linesOf texts)) ∧
    ∃ script, (generate {} options (some ⟨"d.csv", 0, [], []⟩)).outcome = .ok script ∧
      DefinedBeforeUse (Text.splitOn '\n' script.text.toList) := by
  intro options plan
  have hoptions : options.validate = .ok () := by decide +kernel
  have htexts : (plan.texts options ⟨"d.csv", 0, [], []⟩).toOption.isSome := rfl
  have hbuild : (Plan.build options ({} : Settings).unknownAlgorithm).outcome =
      .ok ⟨[.load, .selectFeatures, .split, .model]⟩ := rfl
  obtain ⟨hplan, hgenerated⟩ := variables_definedBeforeUse
  refine ⟨by decide, ?_, ?_⟩
  · cases h : plan.texts options ⟨"d.csv", 0, [], []⟩ with
    | error fault => rw [h] at htexts; cases htexts
    | ok texts => exact ⟨texts, rfl, hplan _ _ _ _ (Options.hasRandomState_of_validate hoptions) rfl h⟩
  · obtain ⟨script, h⟩ := generate_ok_of_build hoptions hbuild ⟨"d.csv", 0, [], []⟩
    exact ⟨script, h, hgenerated _ _ _ _ h⟩

/-- Without the check of the random state a valid plan may read a variable too early: the random state `X_test` makes
the model of a plan that does not split the data read the test features. -/
theorem not_definedBeforeUse_of_unchecked_state :
    ¬∀ (options : Options) (dataset : Dataset) (plan : Plan) (texts : List String),
      plan.validate options = .ok () → plan.texts options dataset = .ok texts → DefinedBeforeUse (linesOf texts) := by
  intro h
  let options : Options := { family := some .classification, algorithm := some .logisticRegression,
                             classificationRandomState := "X_test" }
  let bindings := Render.modelBindings options .classification [.dataset, .x, .y]
  have hlines := h options ⟨"d.csv", 0, [], []⟩ ⟨[.load, .selectFeatures, .model]⟩
    [Render.load ⟨"d.csv", 0, [], []⟩, Fragments.selectFeatures.template,
      "# " ++ Algorithm.label .logisticRegression ++ "\n" ++
        Template.fill (Algorithm.estimator .logisticRegression).template bindings ++ "\n\n" ++
        Template.fill (Family.metric .classification).template bindings] rfl rfl
  rw [definedBeforeUse_iff] at hlines
  simp only [linesOf, List.flatMap_cons, List.flatMap_nil, Render.load, Template.fill, Fragment.template, Text.join,
    String.toList_append, String.toList_ofList, List.map_map, Function.comp_def] at hlines
  revert hlines
  decide +kernel

end TableScript
