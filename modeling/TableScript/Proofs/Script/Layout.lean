import TableScript.Proofs.Script.Assembly
import TableScript.Proofs.Script.Generation
import TableScript.Proofs.Script.Sections

/-!
# The layout of scripts

A script is the blocks of its stages with one blank line between them, whatever the options and the name of the
dataset's file hold: cutting its text at the blank lines gives the blocks back, and the stages can be told from their
headings (`generate_layout`).
-/

namespace TableScript

namespace Headed

variable {heading : String} {block : List (List Char)}

theorem ne_nil (h : Headed heading block) : block ≠ [] := by
  obtain ⟨lines, rfl, -⟩ := h.body
  simp

theorem head? (h : Headed heading block) : block.head? = some heading.toList := by
  obtain ⟨lines, rfl, -⟩ := h.body
  rfl

theorem isControl_of_mem (h : Headed heading block) {line : List Char} (hl : line ∈ block) :
    ∀ c ∈ line, Text.isControl c = false := by
  obtain ⟨lines, rfl, hb⟩ := h.body
  rcases List.mem_cons.1 hl with rfl | hl
  · exact h.comment.1
  · exact (hb line hl).1

theorem line_ne_nil (h : Headed heading block) {line : List Char} (hl : line ∈ block) : line ≠ [] := by
  obtain ⟨lines, rfl, hb⟩ := h.body
  rcases List.mem_cons.1 hl with rfl | hl
  · rintro he
    have := h.comment.2
    simp [he] at this
  · rintro rfl
    have := (hb [] hl).2
    simp at this

theorem lineFeed_not_mem (h : Headed heading block) {line : List Char} (hl : line ∈ block) : '\n' ∉ line := fun hc =>
  absurd (h.isControl_of_mem hl '\n' hc) (by decide)

/-- Only the heading begins with a number sign. -/
theorem filter_comments (h : Headed heading block) :
    block.filter (·.head? = some '#') = [heading.toList] := by
  obtain ⟨lines, rfl, hb⟩ := h.body
  have hnone : lines.filter (·.head? = some '#') = [] := by
    rw [List.filter_eq_nil_iff]
    intro line hl hc
    have hb := (hb line hl).2
    simp only [decide_eq_true_eq] at hc
    simp [hc] at hb
  rw [List.filter_cons_of_pos (by simpa using h.comment.2), hnone]

end Headed

/-- Lines without the empty ones. -/
def filled (lines : List (List Char)) : List (List Char) :=
  lines.filter (!·.isEmpty)

theorem filled_append_cons {line : List Char} (h : line ≠ []) (before after : List (List Char)) :
    filled (before ++ line :: after) = filled before ++ line :: filled after := by
  have hfilled : (!line.isEmpty) = true := by simpa using h
  rw [filled, List.filter_append, List.filter_cons, if_pos hfilled]
  rfl

/-- Blocks under some headings. -/
abbrev HeadedAll (headings : List String) (blocks : List (List (List Char))) : Prop :=
  List.Forall₂ Headed headings blocks

namespace HeadedAll

variable {headings : List String} {blocks : List (List (List Char))}

theorem exists_headed (h : HeadedAll headings blocks) {block : List (List Char)} (hb : block ∈ blocks) :
    ∃ heading ∈ headings, Headed heading block := by
  induction h with
  | nil => simp at hb
  | cons hd _ ih =>
    rcases List.mem_cons.1 hb with rfl | hb
    · exact ⟨_, by simp, hd⟩
    · obtain ⟨heading, hm, hd⟩ := ih hb
      exact ⟨heading, by simp [hm], hd⟩

theorem map_head? (h : HeadedAll headings blocks) :
    blocks.map List.head? = headings.map fun heading => some heading.toList := by
  induction h with
  | nil => rfl
  | cons hd _ ih => rw [List.map_cons, List.map_cons, hd.head?, ih]

/-- The lines with a number sign in front, of blocks with empty lines between them. -/
theorem filter_comments (h : HeadedAll headings blocks) :
    ([[]].intercalate blocks).filter (·.head? = some '#') = headings.map String.toList := by
  induction h with
  | nil => rfl
  | @cons heading block headings blocks hd hs ih =>
    cases blocks with
    | nil =>
      cases hs
      simpa using hd.filter_comments
    | cons next blocks =>
      rw [List.intercalate_cons_cons, List.filter_append, List.filter_append, hd.filter_comments, ih, List.map_cons]
      rfl

/-! ### Joined blocks -/

private theorem filled_intercalate (blocks : List (List (List Char))) :
    filled ([[]].intercalate blocks) = filled blocks.flatten := by
  induction blocks with
  | nil => rfl
  | cons block blocks ih =>
    cases blocks with
    | nil => simp
    | cons next blocks =>
      rw [List.intercalate_cons_cons, List.flatten_cons, filled, List.filter_append, List.filter_append]
      rw [filled] at ih
      rw [ih, filled, filled, List.filter_append]
      simp

section

variable (h : HeadedAll headings blocks)

include h

/-- Cutting joined blocks at the blank lines and at the line feeds gives them back. -/
theorem splitOn_paragraphs (hne : blocks ≠ []) :
    (Text.paragraphs (Text.joinBlocks blocks)).map (Text.splitOn '\n') = blocks := by
  have hlines : ∀ block ∈ blocks, block ≠ [] ∧ ∀ line ∈ block, '\n' ∉ line ∧ line ≠ [] := by
    intro block hb
    obtain ⟨heading, -, hd⟩ := h.exists_headed hb
    exact ⟨hd.ne_nil, fun line hl => ⟨hd.lineFeed_not_mem hl, hd.line_ne_nil hl⟩⟩
  rw [Text.paragraphs_joinBlocks hne hlines, List.map_map]
  have hid : ∀ block ∈ blocks, (Text.splitOn '\n' ∘ ['\n'].intercalate) block = id block := fun block hb =>
    Text.splitOn_intercalate (fun line hl => ((hlines block hb).2 line hl).1) (hlines block hb).1
  rw [List.map_congr_left hid, List.map_id]

/-- The lines of joined blocks. -/
theorem splitOn_joinBlocks (hne : blocks ≠ []) :
    Text.splitOn '\n' (Text.joinBlocks blocks) = [[]].intercalate blocks := by
  have hblocks : ∀ block ∈ blocks, block ≠ [] := by
    intro block hb
    obtain ⟨heading, -, hd⟩ := h.exists_headed hb
    exact hd.ne_nil
  rw [← Text.intercalate_lines hblocks, Text.splitOn_intercalate]
  · intro line hl
    rcases Text.mem_intercalate hl with hl | ⟨block, hb, hl⟩
    · rw [List.mem_singleton.1 hl]
      simp
    · obtain ⟨heading, -, hd⟩ := h.exists_headed hb
      exact hd.lineFeed_not_mem hl
  · obtain ⟨block, blocks, rfl⟩ := List.exists_cons_of_ne_nil hne
    obtain ⟨line, block, rfl⟩ := List.exists_cons_of_ne_nil (hblocks block (by simp))
    simp [List.intercalate_cons_cons_left]

/-- Headed blocks have no empty lines. -/
theorem filled_flatten : filled blocks.flatten = blocks.flatten := by
  rw [filled, List.filter_eq_self]
  intro line hl
  obtain ⟨block, hb, hl⟩ := List.mem_flatten.1 hl
  obtain ⟨heading, -, hd⟩ := h.exists_headed hb
  simpa using hd.line_ne_nil hl

/-- The lines of joined blocks, but for the empty ones, are the lines of the blocks. -/
theorem filled_splitOn_joinBlocks : filled (Text.splitOn '\n' (Text.joinBlocks blocks)) = blocks.flatten := by
  by_cases hne : blocks = []
  · subst hne
    rfl
  · rw [h.splitOn_joinBlocks hne, filled_intercalate, h.filled_flatten]

/-- The only control characters of joined blocks are the line feeds that join them. -/
theorem eq_lineFeed_of_mem_joinBlocks {c : Char} (hc : c ∈ Text.joinBlocks blocks) (hcontrol : Text.isControl c) : c = '\n' := by
  rcases Text.mem_intercalate hc with hc | ⟨text, ht, hc⟩
  · simpa using hc
  · obtain ⟨block, hb, rfl⟩ := List.mem_map.1 ht
    rcases Text.mem_intercalate hc with hc | ⟨line, hl, hc⟩
    · simpa using hc
    · obtain ⟨heading, -, hd⟩ := h.exists_headed hb
      simp [hd.isControl_of_mem hl c hc] at hcontrol

private theorem lines_ne_nil {block : List (List Char)} (hb : block ∈ blocks) :
    ['\n'].intercalate block ≠ [] := by
  obtain ⟨heading, -, hd⟩ := h.exists_headed hb
  obtain ⟨line, block, rfl⟩ := List.exists_cons_of_ne_nil hd.ne_nil
  obtain ⟨c, line, rfl⟩ := List.exists_cons_of_ne_nil (hd.line_ne_nil (List.mem_cons_self ..))
  simp [List.intercalate_cons_cons_left]

theorem head?_joinBlocks (hne : blocks ≠ []) : (Text.joinBlocks blocks).head? = some '#' := by
  cases h with
  | nil => exact absurd rfl hne
  | @cons heading block headings blocks hd hs =>
    have hh := lines_ne_nil (List.Forall₂.cons hd hs) (List.mem_cons_self ..)
    rw [Text.joinBlocks, List.map_cons, Text.head?_intercalate _ hh]
    obtain ⟨lines, rfl, -⟩ := hd.body
    rw [Text.head?_intercalate _ (hd.line_ne_nil (by simp)), hd.comment.2]

theorem getLast?_joinBlocks (hne : blocks ≠ []) : ∃ c, (Text.joinBlocks blocks).getLast? = some c ∧ Text.isControl c = false := by
  have htexts : ∀ text ∈ blocks.map ['\n'].intercalate, text ≠ [] := by
    simpa using fun block hb => lines_ne_nil h hb
  obtain ⟨text, ht, he⟩ := Text.getLast?_intercalate ['\n', '\n'] (by simpa using hne) htexts
  obtain ⟨block, hb, rfl⟩ := List.mem_map.1 ht
  obtain ⟨heading, -, hd⟩ := h.exists_headed hb
  obtain ⟨line, hl, hl'⟩ := Text.getLast?_intercalate ['\n'] hd.ne_nil fun line hl => hd.line_ne_nil hl
  refine ⟨line.getLast (hd.line_ne_nil hl), ?_, hd.isControl_of_mem hl _ (List.getLast_mem _)⟩
  rw [Text.joinBlocks, he, hl', List.getLast?_eq_some_getLast]

end

end HeadedAll

/-! ### Assembled sections -/

namespace Plan

variable {options : Options} {dataset : Dataset} {plan : Plan}

/-- The blocks of some stages, one list for each stage. -/
def sectionsFrom (options : Options) (dataset : Dataset) (plan : Plan) (scope : Scope) :
    List StageId → List (List (List (List Char)))
  | [] => []
  | id :: ids => id.blocks options dataset plan scope ::
    sectionsFrom options dataset plan (scope.extend (id.stage.produces options)) ids

/-- The blocks of the stages of a plan. -/
def blocks (options : Options) (dataset : Dataset) (plan : Plan) : List (List (List Char)) :=
  (sectionsFrom options dataset plan [] plan.stages).flatten

theorem toList_textsFrom (h : options.HasRandomState) {ids : List StageId} {scope : Scope} {texts : List String}
    (ht : textsFrom options dataset plan scope ids = .ok texts) :
    texts.map String.toList = (sectionsFrom options dataset plan scope ids).map Text.joinBlocks := by
  induction ids generalizing scope texts with
  | nil =>
    obtain rfl := Except.ok.inj ht
    rfl
  | cons id ids ih =>
    obtain ⟨text, more, hr, hm, rfl⟩ := textsFrom_cons_eq_ok_iff.1 ht
    rw [List.map_cons, sectionsFrom, List.map_cons, StageId.render_toList h hr, ih hm]

theorem headed_sectionsFrom (h : options.HasRandomState) {ids : List StageId}
    (hm : .model ∈ ids → options.selection.isSome) (scope : Scope) :
    List.Forall₂ (fun id blocks => HeadedAll (id.headings options) blocks) ids
      (sectionsFrom options dataset plan scope ids) := by
  induction ids generalizing scope with
  | nil => exact List.Forall₂.nil
  | cons id ids ih =>
    refine List.Forall₂.cons (StageId.headed_blocks h ?_) (ih (fun hi => hm (by simp [hi])) _)
    rintro rfl
    exact hm (by simp)

end Plan

theorem StageId.headings_ne_nil (options : Options) (id : StageId) : id.headings options ≠ [] := by
  cases id <;> simp [headings]

section

variable {options : Options} {ids : List StageId} {sections : List (List (List (List Char)))}
  (h : List.Forall₂ (fun id blocks => HeadedAll (id.headings options) blocks) ids sections)

include h

theorem HeadedAll.flatten : HeadedAll (ids.flatMap (StageId.headings options)) sections.flatten := by
  induction h with
  | nil => exact List.Forall₂.nil
  | cons hb _ ih => exact List.rel_append hb ih

private theorem exists_headedAll {blocks : List (List (List Char))} (hb : blocks ∈ sections) :
    blocks ≠ [] ∧ ∃ headings, HeadedAll headings blocks := by
  induction h with
  | nil => simp at hb
  | cons hd _ ih =>
    rcases List.mem_cons.1 hb with rfl | hb
    · refine ⟨?_, _, hd⟩
      rintro rfl
      exact StageId.headings_ne_nil options _ (List.forall₂_nil_right_iff.1 hd)
    · exact ih hb

/-- Assembling keeps the texts of all stages as they are. -/
theorem kept_joinBlocks : ∀ text ∈ sections.map Text.joinBlocks, Kept text := by
  intro text ht
  obtain ⟨blocks, hb, rfl⟩ := List.mem_map.1 ht
  obtain ⟨hne, headings, hd⟩ := exists_headedAll h hb
  obtain ⟨last, hlast, hcontrol⟩ := hd.getLast?_joinBlocks hne
  constructor
  · intro c hc
    obtain rfl : last = c := by rwa [hlast, Option.mem_some_iff] at hc
    by_contra hbreak
    rcases isLineBreak_iff.1 (eq_true_of_ne_false hbreak) with rfl | rfl <;> revert hcontrol <;> decide
  · intro hall
    have hmem := List.mem_of_head? (hd.head?_joinBlocks hne)
    exact absurd (List.all_eq_true.1 hall _ hmem) (by decide)

/-- The assembled text is all blocks with blank lines between them, and a line feed at its end. -/
theorem assembleChars_joinBlocks (hne : ids ≠ []) :
    assembleChars (sections.map Text.joinBlocks) = Text.joinBlocks sections.flatten ++ ['\n'] := by
  have hgroups : ∀ texts ∈ sections.map (List.map ['\n'].intercalate), texts ≠ [] := by
    intro texts ht
    obtain ⟨blocks, hb, rfl⟩ := List.mem_map.1 ht
    simpa using (exists_headedAll h hb).1
  have hbody : ['\n', '\n'].intercalate (sections.map Text.joinBlocks) = Text.joinBlocks sections.flatten := by
    have hf := Text.intercalate_flatten ['\n', '\n'] hgroups
    rw [List.map_map, ← List.map_flatten] at hf
    exact hf
  have hsections : sections.map Text.joinBlocks ≠ [] := by
    rw [ne_eq, List.map_eq_nil_iff]
    rintro rfl
    exact hne (List.forall₂_nil_right_iff.1 h)
  rw [assembleChars_eq, keptChars_eq_self (kept_joinBlocks h), if_neg hsections, hbody]

end

/-! ### Reading a script -/

namespace StageId

/-- The stage whose heading a line is. -/
def ofHeading? (line : List Char) : Option StageId :=
  all.find? fun id => id.heading.toList = line

theorem ofHeading?_heading (id : StageId) : ofHeading? id.heading.toList = some id :=
  (by decide : ∀ id ∈ all, ofHeading? id.heading.toList = some id) id (mem_all id)

theorem ofHeading?_label (algorithm : Algorithm) : ofHeading? ('#' :: ' ' :: algorithm.label.toList) = none :=
  (by decide : ∀ algorithm ∈ Algorithm.all, ofHeading? ('#' :: ' ' :: algorithm.label.toList) = none)
    algorithm (Algorithm.mem_all algorithm)

/-- The headings of a stage tell this stage, once. -/
theorem filterMap_headings (options : Options) (id : StageId) :
    (id.headings options).filterMap (fun heading => ofHeading? heading.toList) = [id] := by
  cases id with
  | model =>
    have hm : [heading .model].filterMap (fun heading => ofHeading? heading.toList) = [.model] := by
      simp [ofHeading?_heading]
    cases ha : options.algorithm with
    | none => simpa [headings, ha] using hm
    | some algorithm => simpa [headings, ha, List.filterMap_cons, ofHeading?_label] using hm
  | _ => simp [headings, ofHeading?_heading]

end StageId

namespace Script

/-- The lines of the blocks of a text, which blank lines separate, without the line feed at its end. -/
def blocks (text : String) : List (List (List Char)) :=
  (Text.paragraphs text.toList.dropLast).map (Text.splitOn '\n')

/-- The lines of a text that begin with a number sign. -/
def comments (text : String) : List (List Char) :=
  (Text.splitOn '\n' text.toList).filter (·.head? = some '#')

/-- The stages that the headings of the blocks of a text tell. -/
def readStages (text : String) : List StageId :=
  (blocks text).filterMap fun block => block.head?.bind StageId.ofHeading?

end Script

/-- What is known of a plan whose script has been generated. -/
structure Generated (options : Options) (dataset : Dataset) (plan : Plan) (script : Script) : Prop where
  hasRandomState : options.HasRandomState
  valid : plan.validate options = .ok ()
  stages : script.producedBy = plan.stages
  selection : .model ∈ plan.stages → options.selection.isSome
  blocks_ne_nil : plan.blocks options dataset ≠ []
  headed : HeadedAll (plan.stages.flatMap (StageId.headings options)) (plan.blocks options dataset)
  text : script.text.toList = Text.joinBlocks (plan.blocks options dataset) ++ ['\n']

theorem exists_generated {settings : Settings} {options : Options} {dataset : Dataset} {script : Script}
    (h : (generate settings options (some dataset)).outcome = .ok script) :
    ∃ plan, Generated options dataset plan script := by
  obtain ⟨hv, plan, texts, hb, ht, rfl⟩ := generate_eq_ok_iff.1 h
  have hstate := Options.hasRandomState_of_validate hv
  obtain ⟨keep, hstages, -, hkeep, -⟩ := Plan.stages_of_build hb
  have hload : StageId.load ∈ plan.stages := by
    rw [hstages, List.mem_filter]
    exact ⟨StageId.mem_all _, hkeep .load (by decide) rfl⟩
  have hmodel : .model ∈ plan.stages → options.selection.isSome :=
    fun hm => (Plan.selection_of_mem_stages hb hm).1
  have hsections : List.Forall₂ (fun id blocks => HeadedAll (id.headings options) blocks) plan.stages
      (Plan.sectionsFrom options dataset plan [] plan.stages) := Plan.headed_sectionsFrom hstate hmodel []
  have hheaded := HeadedAll.flatten hsections
  refine ⟨plan, hstate, Plan.validate_of_build hb, rfl, hmodel, ?_, hheaded, ?_⟩
  · intro hnil
    rw [Plan.blocks] at hnil
    rw [hnil] at hheaded
    have hnone := List.flatMap_eq_nil_iff.1 (List.forall₂_nil_right_iff.1 hheaded) .load hload
    exact StageId.headings_ne_nil options _ hnone
  · rw [Plan.script, assemble, String.toList_ofList, Plan.toList_textsFrom hstate ht,
      assembleChars_joinBlocks hsections (List.ne_nil_of_mem hload)]
    rfl

namespace Generated

variable {options : Options} {dataset : Dataset} {plan : Plan} {script : Script}

/-- The blocks of a generated text are those of its plan. -/
theorem blocks_text (h : Generated options dataset plan script) :
    Script.blocks script.text = plan.blocks options dataset := by
  rw [Script.blocks, h.text, List.dropLast_concat, h.headed.splitOn_paragraphs h.blocks_ne_nil]

/-- The lines of a generated text, but for the empty ones, are those of the blocks of its plan. -/
theorem filled_lines (h : Generated options dataset plan script) :
    filled (Text.splitOn '\n' script.text.toList) = (plan.blocks options dataset).flatten := by
  have hblocks := h.headed.filled_splitOn_joinBlocks
  rw [filled] at hblocks ⊢
  rw [h.text, Text.splitOn_append_cons_append, List.filter_append, hblocks, Text.splitOn_of_not_mem (by simp)]
  simp

end Generated

/-- The layout of a generated script: blocks with one blank line between them and a line feed at the end, one block
for each stage and two for the model, each under its heading.  No file name and no other value of the options adds
a control character, a block or a comment, and the stages can be read from the text. -/
theorem generate_layout {settings : Settings} {options : Options} {dataset : Dataset} {script : Script}
    (h : (generate settings options (some dataset)).outcome = .ok script) :
    (∃ body, script.text.toList = body ++ ['\n'] ∧ body.getLast? ≠ some '\n') ∧
    (∀ c ∈ script.text.toList, Text.isControl c → c = '\n') ∧
    (Script.blocks script.text).map List.head? =
      (script.producedBy.flatMap (StageId.headings options)).map (fun heading => some heading.toList) ∧
    (∀ id ∈ script.producedBy, (id.headings options).length = if id = .model then 2 else 1) ∧
    Script.comments script.text = (script.producedBy.flatMap (StageId.headings options)).map String.toList ∧
    Script.readStages script.text = script.producedBy := by
  obtain ⟨plan, hstate, hvalid, hstages, hmodel, hne, hheaded, htext⟩ := exists_generated h
  rw [hstages]
  generalize plan.blocks options dataset = blocks at hne hheaded htext
  have hblocks : Script.blocks script.text = blocks := by
    rw [Script.blocks, htext, List.dropLast_concat, hheaded.splitOn_paragraphs hne]
  obtain ⟨c, hlast, hc⟩ := hheaded.getLast?_joinBlocks hne
  refine ⟨⟨_, htext, ?_⟩, ?_, ?_, ?_, ?_, ?_⟩
  · rintro he
    rw [hlast, Option.some.injEq] at he
    rw [he] at hc
    exact absurd hc (by decide)
  · intro c hmem hcontrol
    rw [htext] at hmem
    rcases List.mem_append.1 hmem with hmem | hmem
    · exact hheaded.eq_lineFeed_of_mem_joinBlocks hmem hcontrol
    · simpa using hmem
  · rw [hblocks, hheaded.map_head?]
  · intro id hid
    cases id with
    | model =>
      obtain ⟨⟨family, algorithm⟩, hs⟩ := Option.isSome_iff_exists.1 (hmodel hid)
      simp [StageId.headings, (Options.selection_eq_some_iff.1 hs).2]
    | _ => rfl
  · rw [Script.comments, htext, Text.splitOn_append_cons_append, hheaded.splitOn_joinBlocks hne, List.filter_append,
      hheaded.filter_comments, Text.splitOn_of_not_mem (by simp)]
    simp
  · calc Script.readStages script.text
      _ = (blocks.map List.head?).filterMap (·.bind StageId.ofHeading?) := by
        rw [Script.readStages, hblocks, List.filterMap_map]
        rfl
      _ = (plan.stages.flatMap (StageId.headings options)).filterMap
          (fun heading => StageId.ofHeading? heading.toList) := by
        rw [hheaded.map_head?, List.filterMap_map]
        rfl
      _ = plan.stages := by
        simp only [List.filterMap_flatMap, StageId.filterMap_headings]
        exact List.flatMap_singleton' _

/-- A file name with line feeds, a heading, braces and a quote does not change the stages that are read, although the
script has many of them and a model. -/
theorem generate_layout_of_hostile_name :
    let options : Options :=
      { importLibraries := true, handleMissingData := true, splitDataset := true, performScaling := true,
        family := some .regression, algorithm := some .polynomialRegression }
    let stages : List StageId := [.load, .imports, .selectFeatures, .imputeMissing, .split, .scale, .model]
    ∃ script,
      (generate {} options (some ⟨"a'\n\n# Evaluate model\n\x7bcolumn\x7d\r", 0, [], []⟩)).outcome = .ok script ∧
      script.producedBy = stages ∧ Script.readStages script.text = stages ∧
      Script.comments script.text = ["# Load dataset", "# Import libraries", "# Select features and target",
        "# Handle missing data", "# Split dataset into training and test set", "# Feature scaling",
        "# Polynomial Regression", "# Evaluate model"].map String.toList := by
  intro options stages
  have hbuild : (Plan.build options ({} : Settings).unknownAlgorithm).outcome = .ok ⟨stages⟩ := rfl
  obtain ⟨script, h⟩ := generate_ok_of_build rfl hbuild ⟨"a'\n\n# Evaluate model\n\x7bcolumn\x7d\r", 0, [], []⟩
  obtain ⟨-, plan, texts, hplan, -, rfl⟩ := generate_eq_ok_iff.1 h
  obtain rfl := Except.ok.inj (hplan.symm.trans hbuild)
  obtain ⟨-, -, -, -, hcomments, hread⟩ := generate_layout h
  exact ⟨_, h, rfl, hread, hcomments⟩

end TableScript
