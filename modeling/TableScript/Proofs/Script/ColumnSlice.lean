import TableScript.Proofs.Options.RandomState
import TableScript.Proofs.Script.Delimiters
import TableScript.Proofs.Script.Steps

/-!
# Slices of columns

A script takes its features from the dataset by a slice of the columns, in which a negative bound counts from the end.
The feature columns that the generator reckons with are those that this slice denotes (`Slice.of_columns`).  So the
warning that a column index has no column is told exactly if the index that the script encodes lies outside the slice
that it takes (`columnWarning_iff_outside_slice`).

Both are read from the text: no line but the one that takes the features begins like it, whatever the file name and
the options are, and the same holds of the line that encodes a column (`Generated.filterMap_lines`).
-/

namespace TableScript

/-! ## Slices -/

/-- A slice of a sequence: two bounds, counted from the end where they are negative.  Where one is left out, the slice
goes from the beginning or to the end. -/
structure Slice where
  start : Option Int
  stop : Option Int
  deriving DecidableEq, Repr

namespace Slice

/-- Where a bound is in a sequence of some length, which it does not leave. -/
def place (length : Nat) (bound : Int) : Nat :=
  min length (if bound < 0 then bound + length else bound).toNat

/-- The items of a sequence that a slice denotes. -/
def of {α : Type} (slice : Slice) (items : List α) : List α :=
  let start := (slice.start.map (place items.length)).getD 0
  let stop := (slice.stop.map (place items.length)).getD items.length
  (items.take stop).drop start

/-- Reads a bound, which may be left out. -/
def readBound? : List Char → Option (Option Int)
  | [] => some none
  | '-' :: digits => (Literal.integer? digits).map fun n => some (-n)
  | digits => (Literal.integer? digits).map fun n => some n

/-- Reads a slice: two bounds around a colon. -/
def read? (cs : List Char) : Option Slice :=
  match Text.splitOn ':' cs with
  | [start, stop] => do return ⟨← readBound? start, ← readBound? stop⟩
  | _ => none

end Slice

/-- The places between which the columns become features are in order, and not behind the last column. -/
theorem Dataset.featurePlaces_le (dataset : Dataset) (dropFirst : Bool) :
    (dataset.featurePlaces dropFirst).1 ≤ (dataset.featurePlaces dropFirst).2 ∧
      (dataset.featurePlaces dropFirst).2 ≤ dataset.columns.length := by
  unfold featurePlaces
  constructor
  · cases dropFirst <;> simp
  · simp

/-- The slice up to the last column, from the second or the first, denotes the feature columns. -/
theorem Slice.of_columns (dataset : Dataset) (dropFirst : Bool) :
    (Slice.mk (if dropFirst then some 1 else none) (some (-1))).of dataset.columns =
      dataset.featureColumns dropFirst := by
  have hstop : place dataset.columns.length (-1) = dataset.columns.length - 1 := by
    simp only [place]
    omega
  cases dropFirst with
  | false => simp [of, hstop, Dataset.featureColumns, Dataset.featurePlaces]
  | true =>
    have hstart : place dataset.columns.length 1 = min 1 dataset.columns.length := by
      simp only [place]
      omega
    simp only [of, if_true, Option.map_some, Option.getD_some, hstart, hstop, Dataset.featureColumns,
      Dataset.featurePlaces]
    -- the two starts differ only where the slice is empty
    by_cases hlength : 2 ≤ dataset.columns.length
    · congr 1
      omega
    · have hempty : dataset.columns.take (dataset.columns.length - 1) = [] := by
        rw [List.take_eq_nil_iff]
        omega
      simp [hempty]

/-! ## Lines that begin with a text -/

namespace Fragment

/-- Whether a line copies a beginning that differs from a text. -/
def beginsOtherwise (start : String) : List Piece → Bool
  | .text s :: _ =>
    !(Text.charsOf s).isPrefixOf (Text.charsOf start) && !(Text.charsOf start).isPrefixOf (Text.charsOf s)
  | _ => false

/-- Whether all lines of a fragment copy beginnings that differ from a text. -/
def avoids (start : String) (fragment : Fragment) : Bool :=
  fragment.lines.all (beginsOtherwise start)

theorem not_prefix_of_avoids {start : String} {fragment : Fragment} (h : fragment.avoids start)
    {value : Parameter → String} : ∀ line ∈ fragment.filledLines value, ¬ start.toList <+: line := by
  intro line hl
  obtain ⟨pieces, hp, rfl⟩ := List.mem_map.1 hl
  have hb := List.all_eq_true.1 h pieces hp
  cases pieces with
  | nil => simp [beginsOtherwise] at hb
  | cons piece pieces =>
    cases piece with
    | hole parameter => simp [beginsOtherwise] at hb
    | text s =>
      simp only [beginsOtherwise, Bool.and_eq_true, Bool.not_eq_true', ← Text.toList_eq_charsOf, Bool.eq_false_iff,
        ne_eq, List.isPrefixOf_iff_prefix] at hb
      rw [List.flatMap_cons, Piece.filled]
      intro hstart
      rcases List.prefix_or_prefix_of_prefix hstart (List.prefix_append s.toList _) with hs | hs
      · exact hb.2 hs
      · exact hb.1 hs

end Fragment

/-- Some stages are the only ones with lines that begin with a text. -/
structure BeginsOnlyIn (ids : List StageId) (start : String) : Prop where
  scaleSplit : Fragments.scaleSplit.avoids start
  fragments : ∀ id ∈ StageId.all, id ∉ ids → (id.fragment? []).all (Fragment.avoids start)
  estimators : ∀ algorithm ∈ Algorithm.all, algorithm.estimator.avoids start
  metrics : ∀ family ∈ Family.all, family.metric.avoids start
  imports : ∀ line ∈ Fragments.importLines, ¬ Text.charsOf start <+: Text.charsOf line
  comments : (Text.charsOf start).head?.any (· ≠ '#')

section

variable {options : Options} {dataset : Dataset} {plan : Plan} {scope : Scope} {script : Script}

namespace BeginsOnlyIn

variable {ids : List StageId} {start : String} (h : BeginsOnlyIn ids start)

include h

theorem exists_cons : ∃ c rest, start.toList = c :: rest ∧ c ≠ '#' := by
  have hhead := h.comments
  rw [← Text.toList_eq_charsOf] at hhead
  cases hs : start.toList with
  | nil => simp [hs] at hhead
  | cons c rest => exact ⟨c, rest, rfl, by simpa [hs] using hhead⟩

theorem not_prefix {id : StageId} (hid : id ∉ ids) :
    ∀ line ∈ (id.blocks options dataset plan scope).flatten, ¬ start.toList <+: line := by
  have hcomment : ∀ cs, ¬ start.toList <+: '#' :: cs := by
    intro cs hstart
    obtain ⟨c, rest, hs, hc⟩ := h.exists_cons
    rw [hs, List.cons_prefix_cons] at hstart
    exact hc hstart.1
  cases hf : id.fragment? scope with
  | some fragment =>
    have havoids : fragment.avoids start := by
      rcases StageId.fragment?_cases hf with rfl | hf
      · exact h.scaleSplit
      · simpa [hf] using h.fragments id (StageId.mem_all id) hid
    rw [StageId.blocks_of_fragment hf, List.flatten_singleton]
    exact Fragment.not_prefix_of_avoids havoids
  | none =>
    cases id with
    | imports =>
      intro line hl
      rw [StageId.blocks, List.flatten_singleton, List.map_cons, List.mem_cons, List.mem_map] at hl
      rcases hl with rfl | ⟨text, ht, rfl⟩
      · exact hcomment _
      · rw [Text.toList_eq_charsOf, Text.toList_eq_charsOf]
        exact h.imports text (plan.importLines_subset options text ht)
    | model =>
      rw [StageId.blocks]
      split
      · rename_i family algorithm hs
        intro line hl
        rw [List.flatten_cons, List.flatten_singleton, List.cons_append, List.mem_cons, List.mem_append,
          String.toList_append] at hl
        rcases hl with rfl | hl | hl
        · exact hcomment _
        · exact Fragment.not_prefix_of_avoids (h.estimators algorithm (Algorithm.mem_all algorithm)) line hl
        · exact Fragment.not_prefix_of_avoids (h.metrics family (Family.mem_all family)) line hl
      · simp
    | _ => cases hf

end BeginsOnlyIn

/-- What is read from lines that begin with a text is read stage by stage: from the stages that have such lines. -/
theorem Generated.filterMap_lines {α : Type} (h : Generated options dataset plan script)
    {read : List Char → Option α} {start : String} {ids : List StageId} {own : StageId → List α}
    (hstart : BeginsOnlyIn ids start) (hread : ∀ {line a}, read line = some a → start.toList <+: line)
    (hown : ∀ id ∈ ids, ∀ scope, (id.blocks options dataset plan scope).flatten.filterMap read = own id)
    (hnone : ∀ id ∉ ids, own id = []) :
    (Text.splitOn '\n' script.text.toList).filterMap read = plan.stages.flatMap own := by
  have hempty : read [] = none := by
    obtain ⟨c, rest, hs, -⟩ := hstart.exists_cons
    rw [Option.eq_none_iff_forall_ne_some]
    intro a ha
    have hprefix := hread ha
    rw [hs] at hprefix
    exact absurd (List.prefix_nil.1 hprefix) (by simp)
  have hfilled : (filled (Text.splitOn '\n' script.text.toList)).filterMap read =
      (Text.splitOn '\n' script.text.toList).filterMap read := by
    rw [filled, List.filterMap_filter]
    refine List.filterMap_congr fun line _ => ?_
    cases line with
    | nil => simp [hempty]
    | cons c line => simp
  have hstep : ∀ step : StageId × Scope,
      (step.1.blocks options dataset plan step.2).flatten.filterMap read = own step.1 := by
    intro step
    by_cases hid : step.1 ∈ ids
    · exact hown _ hid _
    · rw [hnone _ hid, List.filterMap_eq_nil_iff]
      intro line hl
      rw [Option.eq_none_iff_forall_ne_some]
      exact fun a ha => hstart.not_prefix hid line hl (hread ha)
  have hids : (plan.steps options).map Prod.fst = plan.stages := Plan.map_fst_steps
  rw [← hfilled, h.filled_lines, Plan.flatten_blocks, List.filterMap_flatMap, ← hids, List.flatMap_map]
  exact List.flatMap_congr fun step _ => hstep step

end

/-! ## The slice and the column of a script -/

namespace Script

/-- What a line holds between its beginning and its end. -/
def between? (before after : String) (line : List Char) : Option (List Char) :=
  (line.dropPrefix? before.toList).bind (·.dropSuffix? after.toList)

theorem prefix_of_between? {before after : String} {line held : List Char}
    (h : between? before after line = some held) : before.toList <+: line := by
  obtain ⟨rest, hrest, -⟩ := Option.bind_eq_some_iff.1 h
  obtain ⟨first, rfl, hfirst⟩ := List.dropPrefix?_eq_some_iff.1 hrest
  rw [eq_of_beq hfirst]
  exact List.prefix_append _ _

theorem between?_append (before after : String) (held : List Char) :
    between? before after (before.toList ++ held ++ after.toList) = some held := by
  rw [between?, List.append_assoc, List.dropPrefix?_append_of_beq _ (by simp)]
  exact List.dropSuffix?_eq_some_iff.2 ⟨_, rfl, by simp⟩

/-- The beginning of a line that takes features from the columns of the dataset. -/
def featureStart : String := "X = dataset.iloc[:, "

/-- The beginning of a line that encodes a column. -/
def columnStart : String := "ct = ColumnTransformer(transformers = [('encoder', OneHotEncoder(), ["

def featureSlice? (line : List Char) : Option Slice :=
  (between? featureStart "].values" line).bind Slice.read?

def encodedColumn? (line : List Char) : Option Nat :=
  (between? columnStart "])], remainder = 'passthrough')" line).bind Literal.integer?

/-- The slices by which the lines of a text take features. -/
def featureSlices (text : String) : List Slice :=
  (Text.splitOn '\n' text.toList).filterMap featureSlice?

/-- The columns that the lines of a text encode. -/
def encodedColumns (text : String) : List Nat :=
  (Text.splitOn '\n' text.toList).filterMap encodedColumn?

theorem beginsOnlyIn_featureStart : BeginsOnlyIn [.dropFirstColumn, .selectFeatures] featureStart := by
  constructor <;> decide +kernel

theorem beginsOnlyIn_columnStart : BeginsOnlyIn [.encodeCategorical] columnStart := by
  constructor <;> decide +kernel

end Script

/-- The numeral of a number is a literal of it. -/
theorem Literal.integer?_decimalChars (n : Nat) : integer? (Text.decimalChars n) = some n := by
  have hliteral := (integer?_digits (Text.decimalChars_ne_nil n) (Text.isDigit_of_mem_decimalChars n)).1
  refine (hliteral ?_).trans (Text.readDigits_decimalChars n)
  rintro ⟨hhead, c, hc, hne⟩
  obtain rfl := Text.eq_zero_of_head?_decimalChars hhead
  have hzero : Text.decimalChars 0 = ['0'] := by simp [Text.decimalChars]
  rw [hzero, List.mem_singleton] at hc
  exact hne hc

/-- The slice of the stages that take features. -/
def StageId.slices : StageId → List Slice
  | .dropFirstColumn => [⟨some 1, some (-1)⟩]
  | .selectFeatures => [⟨none, some (-1)⟩]
  | _ => []

/-- The column of the stage that encodes one. -/
def StageId.columns (options : Options) : StageId → List Nat
  | .encodeCategorical => [options.column]
  | _ => []

section

variable {options : Options} {dataset : Dataset} {plan : Plan} {scope : Scope} {script : Script}

theorem StageId.encodedColumns_blocks :
    (StageId.encodeCategorical.blocks options dataset plan scope).flatten.filterMap Script.encodedColumn? =
      [options.column] := by
  have hlines : (StageId.encodeCategorical.blocks options dataset plan scope).flatten =
      ["# Encode categorical data".toList,
        Script.columnStart.toList ++ (Text.decimal options.column).toList ++
          "])], remainder = 'passthrough')".toList,
        "X = np.array(ct.fit_transform(X))".toList] := by
    rw [blocks_of_fragment rfl]
    simp [Fragments.encodeCategorical, Fragment.filledLines, Piece.filled, Render.value, Script.columnStart]
  have hcomment : Script.encodedColumn? "# Encode categorical data".toList = none := by decide
  have hcolumn : Script.encodedColumn? (Script.columnStart.toList ++ (Text.decimal options.column).toList ++
      "])], remainder = 'passthrough')".toList) = some options.column := by
    rw [Script.encodedColumn?, Script.between?_append, Option.bind_some, Text.decimal, String.toList_ofList,
      Literal.integer?_decimalChars]
  have harray : Script.encodedColumn? "X = np.array(ct.fit_transform(X))".toList = none := by decide
  rw [hlines, List.filterMap_cons_none hcomment, List.filterMap_cons_some hcolumn, List.filterMap_cons_none harray]
  rfl

theorem Generated.featureSlices (h : Generated options dataset plan script) :
    Script.featureSlices script.text = plan.stages.flatMap StageId.slices := by
  refine h.filterMap_lines Script.beginsOnlyIn_featureStart ?_ ?_ ?_
  · intro line slice hs
    obtain ⟨held, hheld, -⟩ := Option.bind_eq_some_iff.1 hs
    exact Script.prefix_of_between? hheld
  · intro id hid scope
    rcases List.mem_pair.1 hid with rfl | rfl <;> rfl
  · intro id hid
    cases id <;> simp [StageId.slices] at hid ⊢

theorem Generated.encodedColumns (h : Generated options dataset plan script) :
    Script.encodedColumns script.text = plan.stages.flatMap (StageId.columns options) := by
  refine h.filterMap_lines Script.beginsOnlyIn_columnStart ?_ ?_ ?_
  · intro line column hc
    obtain ⟨held, hheld, -⟩ := Option.bind_eq_some_iff.1 hc
    exact Script.prefix_of_between? hheld
  · intro id hid scope
    rw [List.mem_singleton.1 hid]
    exact StageId.encodedColumns_blocks
  · intro id hid
    cases id <;> simp [StageId.columns] at hid ⊢

end

/-! ## The warning -/

/-- The warnings among some events that a column index has no column. -/
def columnWarnings (events : List Event) : List Event :=
  events.filter fun event => event.message = (Render.columnOutside 0 0).message

theorem columnWarnings_append (events more : List Event) :
    columnWarnings (events ++ more) = columnWarnings events ++ columnWarnings more :=
  List.filter_append ..

/-- The events of a stage while it is rendered. -/
def StageId.warnings (options : Options) (dataset : Dataset) (id : StageId) : List Event :=
  let width := (dataset.featureColumns options.dropFirstColumn).length
  if id = .encodeCategorical ∧ width ≤ options.column then [Render.columnOutside options.column width] else []

section

variable {options : Options} {dataset : Dataset} {plan : Plan} {scope : Scope}

theorem StageId.events_render (id : StageId) :
    (id.render options dataset plan scope).events = id.warnings options dataset := by
  cases id with
  | encodeCategorical =>
    by_cases hwidth : (dataset.featureColumns options.dropFirstColumn).length ≤ options.column
    · simp only [render, warnings, hwidth, and_self, if_true]
      rfl
    · simp only [render, warnings, hwidth, and_false, if_false]
      rfl
  | _ => rfl

theorem columnWarnings_warnings (id : StageId) :
    columnWarnings (id.warnings options dataset) = id.warnings options dataset := by
  unfold StageId.warnings
  dsimp only
  split <;> rfl

/-- A walk that renders some stages tells of no column what these stages do not. -/
theorem columnWarnings_renderFrom {ids : List StageId} {texts : List String}
    (h : (Generate.renderFrom options dataset plan scope ids).outcome = .ok texts) :
    columnWarnings (Generate.renderFrom options dataset plan scope ids).events =
      ids.flatMap (StageId.warnings options dataset) := by
  induction ids generalizing scope texts with
  | nil => rfl
  | cons id ids ih =>
    unfold Generate.renderFrom at h ⊢
    dsimp only at h ⊢
    split at h
    · cases h
    · simp only [Traced.outcome_bind, bind_eq_ok_iff] at h
      obtain ⟨text, htext, ⟨⟩, htold, more, hmore, -⟩ := h
      have hrendered :
          columnWarnings (Traced.tell (ε := GenerationError) (Generate.rendered id.stage)).events = [] := rfl
      rw [Traced.events_bind_of_ok htext, Traced.events_bind_of_ok htold, Traced.events_bind_of_ok hmore,
        columnWarnings_append, columnWarnings_append, columnWarnings_append, StageId.events_render,
        columnWarnings_warnings, hrendered, ih hmore, List.flatMap_cons]
      simp [columnWarnings]

theorem columnWarnings_build (policy : AlgorithmPolicy) :
    columnWarnings (Plan.build options policy).events = [] := by
  unfold Plan.build
  cases Plan.unknownSelection? options with
  | none => rfl
  | some selection => cases policy <;> rfl

end

/-- A generation tells of no column what the stages of its plan do not. -/
theorem columnWarnings_generate {settings : Settings} {options : Options} {dataset : Dataset} {script : Script}
    (h : (generate settings options (some dataset)).outcome = .ok script) {plan : Plan}
    (hb : (Plan.build options settings.unknownAlgorithm).outcome = .ok plan) :
    columnWarnings (generate settings options (some dataset)).events =
      plan.stages.flatMap (StageId.warnings options dataset) := by
  obtain ⟨hv, built, texts, hbuilt, ht, -⟩ := generate_eq_ok_iff.1 h
  obtain rfl : built = plan := Except.ok.inj (hbuilt.symm.trans hb)
  have hrender : (Generate.renderFrom options dataset built [] built.stages).outcome = .ok texts := by
    rw [Plan.renderFrom_outcome (Plan.validate_eq_ok_iff.1 (Plan.validate_of_build hb)).2]
    exact ht
  have hvalid : (Traced.ofExcept options.validate).outcome = .ok () := hv
  unfold generate
  rw [Traced.events_bind_of_ok hvalid, columnWarnings_append]
  dsimp only
  rw [Traced.events_bind_of_ok hb, Traced.events_bind_of_ok hrender, columnWarnings_append, columnWarnings_append,
    columnWarnings_build, columnWarnings_renderFrom hrender]
  have hnothing : columnWarnings (Traced.ofExcept options.validate).events = [] := rfl
  have hmissing : ∀ (missing : List String) (script : Script), columnWarnings
      (if !missing.isEmpty then (do Traced.tell (Generate.importsOff missing.length); return script)
        else (return script : Traced GenerationError Script)).events = [] := by
    intro missing script
    cases missing <;> rfl
  rw [hnothing, List.nil_append, List.nil_append]
  exact (congrArg _ (hmissing _ _)).trans (List.append_nil _)

/-! ## The warning and the slice -/

/-- Only one item of a list without repetitions counts, if nothing comes of the others. -/
private theorem flatMap_eq_ite {α β : Type} [DecidableEq α] {items : List α} (hn : items.Nodup) {f : α → List β} {a : α}
    (h : ∀ x ∈ items, x ≠ a → f x = []) : items.flatMap f = if a ∈ items then f a else [] := by
  induction items with
  | nil => rfl
  | cons x items ih =>
    rw [List.nodup_cons] at hn
    rw [List.forall_mem_cons] at h
    rw [List.flatMap_cons, ih hn.2 h.2]
    by_cases hx : x = a
    · subst hx
      simp [hn.1]
    · simp [h.1 hx, Ne.symm hx]

namespace Plan

variable {options : Options} {policy : AlgorithmPolicy} {plan : Plan} (h : (build options policy).outcome = .ok plan)

include h

/-- A plan that is built has all active stages, but perhaps for the model. -/
theorem mem_stages_iff {id : StageId} (hid : id ≠ .model) : id ∈ plan.stages ↔ id.stage.active options := by
  obtain ⟨keep, hstages, hactive, hkeep, -⟩ := stages_of_build h
  rw [hstages, List.mem_filter]
  exact ⟨fun hm => hactive id hm.2, fun ha => ⟨id.mem_all, hkeep id hid ha⟩⟩

theorem nodup_stages : plan.stages.Nodup := by
  obtain ⟨keep, hstages, -⟩ := stages_of_build h
  exact hstages ▸ (by decide : StageId.all.Nodup).filter keep

theorem dropFirstColumn_mem_stages_iff : .dropFirstColumn ∈ plan.stages ↔ options.dropFirstColumn :=
  mem_stages_iff h (by decide)

theorem selectFeatures_mem_stages_iff :
    .selectFeatures ∈ plan.stages ↔ !options.dropFirstColumn && options.needsFeatures :=
  mem_stages_iff h (by decide)

theorem encodeCategorical_mem_stages_iff : .encodeCategorical ∈ plan.stages ↔ options.categoricalFeature :=
  mem_stages_iff h (by decide)

/-- A plan takes features at most once. -/
theorem flatMap_slices : plan.stages.flatMap StageId.slices =
    if .dropFirstColumn ∈ plan.stages then [⟨some 1, some (-1)⟩]
    else if .selectFeatures ∈ plan.stages then [⟨none, some (-1)⟩] else [] := by
  by_cases hdrop : .dropFirstColumn ∈ plan.stages
  · -- the features are not selected where the first column is dropped
    have hselect : .selectFeatures ∉ plan.stages := by
      rw [selectFeatures_mem_stages_iff h, (dropFirstColumn_mem_stages_iff h).1 hdrop]
      simp
    rw [if_pos hdrop, flatMap_eq_ite (nodup_stages h) (a := .dropFirstColumn) ?_, if_pos hdrop]
    · rfl
    · intro id hid hne
      cases id <;> simp [StageId.slices] at hid hne ⊢
      exact hselect hid
  · rw [if_neg hdrop, flatMap_eq_ite (nodup_stages h) (a := .selectFeatures) ?_]
    · rfl
    · intro id hid hne
      cases id <;> simp [StageId.slices] at hid hne ⊢
      exact hdrop hid

/-- The slice of a plan denotes the feature columns. -/
theorem of_mem_slices (dataset : Dataset) {slice : Slice} (hs : slice ∈ plan.stages.flatMap StageId.slices) :
    slice.of dataset.columns = dataset.featureColumns options.dropFirstColumn := by
  rw [flatMap_slices h] at hs
  rw [← Slice.of_columns]
  by_cases hdrop : .dropFirstColumn ∈ plan.stages
  · rw [if_pos hdrop] at hs
    rw [List.mem_singleton.1 hs, if_pos ((dropFirstColumn_mem_stages_iff h).1 hdrop)]
  · rw [if_neg hdrop] at hs
    rw [if_neg (mt (dropFirstColumn_mem_stages_iff h).2 hdrop)]
    split at hs
    · rw [List.mem_singleton.1 hs]
    · cases hs

/-- A plan that encodes a column takes features. -/
theorem exists_mem_slices (hfeature : options.categoricalFeature) :
    ∃ slice, slice ∈ plan.stages.flatMap StageId.slices := by
  rw [flatMap_slices h]
  by_cases hdrop : .dropFirstColumn ∈ plan.stages
  · exact ⟨_, by rw [if_pos hdrop]; exact List.mem_singleton_self _⟩
  · have hselect : .selectFeatures ∈ plan.stages := by
      rw [dropFirstColumn_mem_stages_iff h] at hdrop
      rw [selectFeatures_mem_stages_iff h]
      simp [hdrop, Options.needsFeatures, hfeature]
    exact ⟨_, by rw [if_neg hdrop, if_pos hselect]; exact List.mem_singleton_self _⟩

theorem flatMap_columns : plan.stages.flatMap (StageId.columns options) =
    if options.categoricalFeature then [options.column] else [] := by
  rw [flatMap_eq_ite (nodup_stages h) (a := .encodeCategorical)
    (fun id _ hne => by cases id <;> simp [StageId.columns] at hne ⊢)]
  simp only [encodeCategorical_mem_stages_iff h]
  rfl

/-- A plan warns at most once. -/
theorem flatMap_warnings (dataset : Dataset) : plan.stages.flatMap (StageId.warnings options dataset) =
    if options.categoricalFeature ∧ (dataset.featureColumns options.dropFirstColumn).length ≤ options.column then
      [Render.columnOutside options.column (dataset.featureColumns options.dropFirstColumn).length] else [] := by
  rw [flatMap_eq_ite (nodup_stages h) (a := .encodeCategorical) (fun id _ hne => by simp [StageId.warnings, hne])]
  simp only [encodeCategorical_mem_stages_iff h, StageId.warnings, true_and, ite_and]

end Plan

/-- The columns that a script takes and the one that it encodes, with the warning about the latter.  The places
between which the generator cuts the feature columns lie in order within the columns, and the feature columns are what a
slice denotes, `1:-1` if the first column is dropped and `:-1` if it is not.  In every generated script this is the
slice that it takes, where it drops the first column and where it selects the features.  It warns of a column exactly if
it encodes one that is not in this slice. -/
theorem columnWarning_iff_outside_slice (options : Options) (dataset : Dataset) :
    ((dataset.featurePlaces options.dropFirstColumn).1 ≤ (dataset.featurePlaces options.dropFirstColumn).2 ∧
      (dataset.featurePlaces options.dropFirstColumn).2 ≤ dataset.columns.length) ∧
    (Slice.mk (if options.dropFirstColumn then some 1 else none) (some (-1))).of dataset.columns =
      dataset.featureColumns options.dropFirstColumn ∧
    ∀ settings script, (generate settings options (some dataset)).outcome = .ok script →
      Script.featureSlices script.text =
        (if .dropFirstColumn ∈ script.producedBy then [⟨some 1, some (-1)⟩]
          else if .selectFeatures ∈ script.producedBy then [⟨none, some (-1)⟩] else []) ∧
      (∀ slice ∈ Script.featureSlices script.text,
        slice.of dataset.columns = dataset.featureColumns options.dropFirstColumn) ∧
      Script.encodedColumns script.text = (if options.categoricalFeature then [options.column] else []) ∧
      (columnWarnings (generate settings options (some dataset)).events ≠ [] ↔
        options.categoricalFeature ∧ ∃ column ∈ Script.encodedColumns script.text,
          ∃ slice ∈ Script.featureSlices script.text, (slice.of dataset.columns).length ≤ column) := by
  refine ⟨dataset.featurePlaces_le _, Slice.of_columns dataset _, fun settings script h => ?_⟩
  obtain ⟨plan, hb, hgenerated, -⟩ := exists_built h
  rw [hgenerated.stages, hgenerated.featureSlices, hgenerated.encodedColumns, columnWarnings_generate h hb,
    Plan.flatMap_columns hb, Plan.flatMap_warnings hb]
  refine ⟨Plan.flatMap_slices hb, fun slice hs => Plan.of_mem_slices hb dataset hs, rfl, ?_⟩
  constructor
  · intro hwarned
    obtain ⟨hfeature, hwidth⟩ : options.categoricalFeature ∧
        (dataset.featureColumns options.dropFirstColumn).length ≤ options.column := by
      by_contra hnot
      exact hwarned (if_neg hnot)
    obtain ⟨slice, hslice⟩ := Plan.exists_mem_slices hb hfeature
    refine ⟨hfeature, options.column, by simp [hfeature], slice, hslice, ?_⟩
    rwa [Plan.of_mem_slices hb dataset hslice]
  · rintro ⟨hfeature, column, hcolumn, slice, hslice, hwidth⟩
    rw [if_pos hfeature, List.mem_singleton] at hcolumn
    rw [Plan.of_mem_slices hb dataset hslice, hcolumn] at hwidth
    rw [if_pos ⟨hfeature, hwidth⟩]
    exact List.cons_ne_nil _ _

/-- Of two columns the first is dropped and the last is the target, so that there is none to encode. -/
theorem columnWarning_of_two_columns : ∃ script,
    (generate {} { dropFirstColumn := true, categoricalFeature := true }
      (some ⟨"d.csv", 0, ["a", "b"], []⟩)).outcome = .ok script ∧
    Script.featureSlices script.text = [⟨some 1, some (-1)⟩] ∧ Script.encodedColumns script.text = [0] ∧
    columnWarnings (generate {} { dropFirstColumn := true, categoricalFeature := true }
      (some ⟨"d.csv", 0, ["a", "b"], []⟩)).events ≠ [] := by
  have h : (generate {} { dropFirstColumn := true, categoricalFeature := true }
    (some ⟨"d.csv", 0, ["a", "b"], []⟩)).outcome = .ok _ := rfl
  obtain ⟨hslices, -, hcolumns, hwarned⟩ := (columnWarning_iff_outside_slice _ _).2.2 _ _ h
  refine ⟨_, h, hslices, hcolumns, hwarned.2 ⟨rfl, 0, ?_, ⟨some 1, some (-1)⟩, ?_, by decide⟩⟩
  · rw [hcolumns]
    decide
  · rw [hslices]
    decide

end TableScript
