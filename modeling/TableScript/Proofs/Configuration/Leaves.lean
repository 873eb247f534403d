import TableScript.Proofs.Configuration.Merging
import TableScript.Proofs.Configuration.Records

/-!
# The leaves of configurations

The single values that a configuration holds, each with its place in a tree of settings.  From a tree that has scalars
of the right kinds in their places a configuration is made, in which each leaf has the value of the scalar in its place,
or its default where there is none (`exists_ofSettings`).
-/

namespace TableScript

/-! ## The two sections -/

inductive Settings.Field where
  | unknownAlgorithm
  | raggedRows
  deriving DecidableEq

abbrev Settings.Field.Value : Settings.Field → Type
  | unknownAlgorithm => AlgorithmPolicy
  | raggedRows => RowPolicy

def Settings.record : Record Settings where
  Field := Field
  Value := Field.Value
  fields := [.unknownAlgorithm, .raggedRows]
  key
    | .unknownAlgorithm => "unknown_algorithm"
    | .raggedRows => "ragged_rows"
  read
    | .unknownAlgorithm, _, setting => setting.toPolicy "UnknownAlgorithmPolicy"
        ([AlgorithmPolicy.error, .skip].map fun policy => (policy.name, policy))
    | .raggedRows, _, setting => setting.toPolicy "RaggedRowPolicy"
        ([RowPolicy.allow, .reject].map fun policy => (policy.name, policy))
  get
    | .unknownAlgorithm => Settings.unknownAlgorithm
    | .raggedRows => Settings.raggedRows
  put
    | .unknownAlgorithm => fun policy settings => { settings with unknownAlgorithm := policy }
    | .raggedRows => fun policy settings => { settings with raggedRows := policy }
  mem_fields field := by cases field <;> decide
  key_injective {a b} h := by cases a <;> cases b <;> first | rfl | exact absurd h (by decide)
  get_put field value state := by cases field <;> rfl
  get_put_of_ne {a b} h value state := by cases a <;> cases b <;> first | rfl | exact absurd rfl h

theorem Settings.settingFields_record : record.settingFields = settingFields := rfl

inductive LogSettings.Field where
  | enabled
  | level
  | format
  | output
  | file
  | color
  | modules
  deriving DecidableEq

abbrev LogSettings.Field.Value : LogSettings.Field → Type
  | enabled | color => Bool
  | level | format | output => String
  | file => Option String
  | modules => List (String × String)

def LogSettings.record : Record LogSettings where
  Field := Field
  Value := Field.Value
  fields := [.enabled, .level, .format, .output, .file, .color, .modules]
  key
    | .enabled => "enabled"
    | .level => "level"
    | .format => "format"
    | .output => "output"
    | .file => "file"
    | .color => "color"
    | .modules => "modules"
  read
    | .enabled | .color => Setting.toBool
    | .level | .format | .output => Setting.toText
    | .file => Setting.toOptionalText
    | .modules => Setting.toTexts
  get
    | .enabled => LogSettings.enabled
    | .level => LogSettings.level
    | .format => LogSettings.format
    | .output => LogSettings.output
    | .file => LogSettings.file
    | .color => LogSettings.color
    | .modules => LogSettings.modules
  put
    | .enabled => fun enabled settings => { settings with enabled }
    | .level => fun level settings => { settings with level }
    | .format => fun format settings => { settings with format }
    | .output => fun output settings => { settings with output }
    | .file => fun file settings => { settings with file }
    | .color => fun color settings => { settings with color }
    | .modules => fun modules settings => { settings with modules }
  mem_fields field := by cases field <;> decide
  key_injective {a b} h := by cases a <;> cases b <;> first | rfl | exact absurd h (by decide)
  get_put field value state := by cases field <;> rfl
  get_put_of_ne {a b} h value state := by cases a <;> cases b <;> first | rfl | exact absurd rfl h

theorem LogSettings.settingFields_record : record.settingFields = settingFields := rfl

/-! ## Scalars in their places -/

/-- What is made of what is said, or not said, about something that has a default. -/
def decided {α : Type} (read? : Scalar → Option α) (default : α) : Option Scalar → Option α
  | some value => read? value
  | none => some default

namespace Record

open Setting (Merged)

variable {σ : Type} (record : Record σ)

/-- The value of a field that a scalar stands for, wherever it comes from. -/
def readScalar? (field : record.Field) (value : Scalar) : Option (record.Value field) :=
  (record.read field "" (.scalar value none)).toOption

/-- A section that there may be is read, if it is merged along some path and its known members can be read. -/
theorem exists_read (name key : String) {found : Option Setting} {good : Scalar → Prop} {own : String}
    {path : List String} (hfound : ∀ tree ∈ found, Merged good (own :: path) tree)
    (hread : ∀ field, ∀ setting ∈ found.bind fun tree => Dict.get? (record.key field) tree.members,
      ∃ value, record.read field (key ++ "." ++ record.key field) setting = .ok value) (start : σ) :
    ∃ state, (match found with
        | some setting => setting.toSection name key record.settingFields start
        | none => .ok start) = .ok state ∧
      ∀ field, (∀ setting ∈ found.bind fun tree => Dict.get? (record.key field) tree.members,
          record.read field (key ++ "." ++ record.key field) setting = .ok (record.get field state)) ∧
        ((found.bind fun tree => Dict.get? (record.key field) tree.members) = none →
          record.get field state = record.get field start) := by
  cases found with
  | none => exact ⟨start, rfl, fun field => ⟨fun setting h => (by cases h), fun _ => rfl⟩⟩
  | some tree =>
    obtain ⟨members, source, rfl, hordered, -⟩ := hfound tree rfl
    exact record.exists_toSection name key source hordered.nodup hread start

/-- A good scalar can be read. -/
theorem exists_value_of_merged {field : record.Field} {key : String}
    (hsource : ∀ value source, (record.read field key (.scalar value source)).toOption = record.readScalar? field value)
    {setting : Setting} (h : Merged (fun value => (record.readScalar? field value).isSome) [] setting) :
    ∃ value, record.read field key setting = .ok value := by
  obtain ⟨value, source, rfl, hgood⟩ := h
  rw [← hsource value source] at hgood
  cases hread : record.read field key (.scalar value source) with
  | error fault => rw [hread] at hgood; cases hgood
  | ok value => exact ⟨value, rfl⟩

/-- A field that is read from a scalar or not at all is decided by it. -/
theorem decided_of_read {field : record.Field} {key : String} {found : Option Setting} {start state : σ}
    (hsource : ∀ value source, (record.read field key (.scalar value source)).toOption = record.readScalar? field value)
    {good : Scalar → Prop} (hfound : ∀ setting ∈ found, Merged good [] setting)
    (hsome : ∀ setting ∈ found, record.read field key setting = .ok (record.get field state))
    (hnone : found = none → record.get field state = record.get field start) :
    decided (record.readScalar? field) (record.get field start) (found.bind (Setting.at? [])) =
      some (record.get field state) := by
  cases found with
  | none => rw [hnone rfl]; rfl
  | some setting =>
    obtain ⟨value, source, rfl, -⟩ := hfound setting rfl
    rw [Option.bind_some, Setting.at?, decided, ← hsource value source, hsome _ rfl]
    rfl

end Record

theorem Settings.read_scalar (field : Field) (key : String) (value : Scalar) (source : Option String) :
    (record.read field key (.scalar value source)).toOption = record.readScalar? field value := by
  cases field <;> cases value <;> rfl

theorem Setting.toOption_toText (key : String) (value : Scalar) (source : Option String) :
    ((scalar value source).toText key).toOption = ((scalar value none).toText "").toOption := by
  cases value <;> rfl

theorem LogSettings.read_scalar (field : Field) (key : String) (value : Scalar) (source : Option String) :
    (record.read field key (.scalar value source)).toOption = record.readScalar? field value := by
  have hbool : ((Setting.scalar value source).toBool key).toOption =
      ((Setting.scalar value none).toBool "").toOption := by
    cases value with
    | text text =>
      simp only [Setting.toBool]
      split
      · rfl
      · split <;> rfl
    | _ => rfl
  cases field with
  | enabled | color => exact hbool
  | level | format | output => exact Setting.toOption_toText key value source
  | file | modules => cases value <;> rfl

/-- Members that are all scalars with a text are read as texts, each under its name. -/
theorem Setting.exists_toTexts (key : String) {members : List (String × Setting)} (source : Option String)
    (hkeys : (members.map Prod.fst).Nodup)
    (h : ∀ name, ∀ setting ∈ Dict.get? name members,
      Merged (fun value => ((scalar value none).toText "").toOption.isSome) [] setting) :
    ∃ texts, (table members source).toTexts key = .ok texts ∧
      ∀ name, decided (fun value => ((scalar value none).toText "").toOption.map some) none
        ((Dict.get? name members).bind (at? [])) = some (Dict.get? name texts) := by
  induction members with
  | nil => exact ⟨[], rfl, fun name => rfl⟩
  | cons member members ih =>
    obtain ⟨own, setting⟩ := member
    rw [List.map_cons, List.nodup_cons] at hkeys
    have hrest : ∀ name, ∀ found ∈ Dict.get? name members,
        Merged (fun value => ((scalar value none).toText "").toOption.isSome) [] found :=
      fun name found hfound => h name found (Dict.get?_cons_of_not_mem hkeys.1 hfound)
    obtain ⟨texts, htexts, hnames⟩ := ih hkeys.2 hrest
    obtain ⟨value, from?, rfl, hgood⟩ := h own setting (by rw [Dict.get?, if_pos rfl]; rfl)
    obtain ⟨text, htext⟩ := Option.isSome_iff_exists.1 hgood
    have hread : (scalar value from?).toText (key ++ "." ++ own) = .ok text := by
      have hoption := toOption_toText (key ++ "." ++ own) value from?
      rw [htext] at hoption
      cases hresult : (scalar value from?).toText (key ++ "." ++ own) with
      | error fault => rw [hresult] at hoption; cases hoption
      | ok found => rw [hresult] at hoption; rw [Option.some.inj hoption]
    refine ⟨(own, text) :: texts, ?_, fun name => ?_⟩
    · simp only [toTexts] at htexts ⊢
      rw [List.mapM_cons, hread, htexts]
      rfl
    · rw [Dict.get?, Dict.get?]
      split
      · rw [Option.bind_some, at?, decided, htext]
        rfl
      · exact hnames name

/-! ## Leaves -/

/-- The single values of a configuration. -/
inductive Leaf where
  | unknownAlgorithm
  | raggedRows
  | enabled
  | level
  | format
  | output
  | file
  | color
  /-- The level of a single source. -/
  | module (name : String)
  deriving DecidableEq, Repr

namespace Leaf

def path : Leaf → List String
  | unknownAlgorithm => ["generator", "unknown_algorithm"]
  | raggedRows => ["generator", "ragged_rows"]
  | enabled => ["logging", "enabled"]
  | level => ["logging", "level"]
  | format => ["logging", "format"]
  | output => ["logging", "output"]
  | file => ["logging", "file"]
  | color => ["logging", "color"]
  | module name => ["logging", "modules", name]

/-- What a leaf is in a configuration; the level of a source that has none is none. -/
abbrev Value : Leaf → Type
  | unknownAlgorithm => AlgorithmPolicy
  | raggedRows => RowPolicy
  | enabled | color => Bool
  | level | format | output => String
  | file | module _ => Option String

def value (configuration : Configuration) : (leaf : Leaf) → leaf.Value
  | unknownAlgorithm => configuration.generator.unknownAlgorithm
  | raggedRows => configuration.generator.raggedRows
  | enabled => configuration.logging.enabled
  | level => configuration.logging.level
  | format => configuration.logging.format
  | output => configuration.logging.output
  | file => configuration.logging.file
  | color => configuration.logging.color
  | module name => Dict.get? name configuration.logging.modules

/-- What a scalar means for a leaf, if it is one of the right kind. -/
def read? : (leaf : Leaf) → Scalar → Option leaf.Value
  | unknownAlgorithm => Settings.record.readScalar? .unknownAlgorithm
  | raggedRows => Settings.record.readScalar? .raggedRows
  | enabled => LogSettings.record.readScalar? .enabled
  | level => LogSettings.record.readScalar? .level
  | format => LogSettings.record.readScalar? .format
  | output => LogSettings.record.readScalar? .output
  | file => LogSettings.record.readScalar? .file
  | color => LogSettings.record.readScalar? .color
  | module _ => fun value => ((Setting.scalar value none).toText "").toOption.map some

/-- A scalar of the right kind for a leaf. -/
def Good (leaf : Leaf) (value : Scalar) : Prop :=
  (leaf.read? value).isSome

end Leaf

open Setting (Merged at?)

/-- What there is under a key of a tree that is merged along a path. -/
theorem Setting.merged_below {good : Scalar → Prop} {name : String} {path : List String} {found : Option Setting}
    (h : ∀ tree ∈ found, Merged good (name :: path) tree) :
    ∀ setting ∈ found.bind fun tree => Dict.get? name tree.members, Merged good path setting := by
  intro setting hsetting
  obtain ⟨tree, htree, hget⟩ := Option.bind_eq_some_iff.1 hsetting
  obtain ⟨members, source, rfl, -, hbelow⟩ := h tree htree
  exact hbelow setting hget

theorem Setting.bind_at? (found : Option Setting) (name : String) (path : List String) :
    found.bind (at? (name :: path)) = (found.bind fun tree => Dict.get? name tree.members).bind (at? path) := by
  cases found <;> rfl

/-- The section of the generator, if it is there, is read, and each field decided by the scalar in its place. -/
theorem Settings.exists_of_merged {found : Option Setting} (h : ∀ field : Field, ∀ tree ∈ found,
      Merged (fun value => (record.readScalar? field value).isSome) [record.key field] tree) :
    ∃ settings, (match found with
        | some setting => setting.toSection "GeneratorSettings" "generator" settingFields {}
        | none => .ok {}) = .ok settings ∧
      ∀ field : Field, decided (record.readScalar? field) (record.get field {})
        (found.bind (at? [record.key field])) = some (record.get field settings) := by
  obtain ⟨settings, hsettings, hfields⟩ := record.exists_read "GeneratorSettings" "generator" (h .raggedRows)
    (fun field setting hsetting =>
      record.exists_value_of_merged (read_scalar field _) (Setting.merged_below (h field) setting hsetting)) {}
  refine ⟨settings, hsettings, fun field => ?_⟩
  rw [Setting.bind_at?]
  exact record.decided_of_read (read_scalar field _) (Setting.merged_below (h field)) (hfields field).1
    (hfields field).2

/-- A table of modules is read, and the level of each decided by the scalar under its name. -/
theorem exists_texts_of_merged {setting : Setting} (h : ∀ name, Merged (Leaf.module name).Good [name] setting)
    (key : String) : ∃ texts, setting.toTexts key = .ok texts ∧
      ∀ name, decided (Leaf.module name).read? none (setting.at? [name]) = some (Dict.get? name texts) := by
  obtain ⟨members, source, rfl, hordered, -⟩ := h ""
  refine Setting.exists_toTexts key source hordered.nodup fun name entry hentry => ?_
  obtain ⟨_, _, htable, -, hentries⟩ := h name
  cases htable
  obtain ⟨value, source, rfl, hgood⟩ := hentries entry hentry
  exact ⟨value, source, rfl, by simpa [Leaf.Good, Leaf.read?] using hgood⟩

/-- The same of the section of the log, and of the sources in its table of modules. -/
theorem LogSettings.exists_of_merged {found : Option Setting} (h : ∀ field : Field, field ≠ .modules →
      ∀ tree ∈ found, Merged (fun value => (record.readScalar? field value).isSome) [record.key field] tree)
    (hmodules : ∀ name, ∀ tree ∈ found, Merged (Leaf.module name).Good ["modules", name] tree) :
    ∃ settings, (match found with
        | some setting => setting.toSection "LoggingConfig" "logging" settingFields {}
        | none => .ok {}) = .ok settings ∧
      (∀ field : Field, field ≠ .modules → decided (record.readScalar? field) (record.get field {})
        (found.bind (at? [record.key field])) = some (record.get field settings)) ∧
      ∀ name, decided (Leaf.module name).read? none (found.bind (at? ["modules", name])) =
        some (Dict.get? name settings.modules) := by
  have htexts := fun key setting hsetting =>
    exists_texts_of_merged (fun name => Setting.merged_below (hmodules name) setting hsetting) key
  have hread : ∀ field : Field, ∀ setting ∈ found.bind fun tree => Dict.get? (record.key field) tree.members,
      ∃ value, record.read field ("logging" ++ "." ++ record.key field) setting = .ok value := by
    intro field setting hsetting
    by_cases hfield : field = .modules
    · subst hfield
      obtain ⟨texts, htexts, -⟩ := htexts _ setting hsetting
      exact ⟨texts, htexts⟩
    · exact record.exists_value_of_merged (read_scalar field _)
        (Setting.merged_below (h field hfield) setting hsetting)
  obtain ⟨settings, hsettings, hfields⟩ :=
    record.exists_read "LoggingConfig" "logging" (h .enabled (by decide)) hread {}
  refine ⟨settings, hsettings, fun field hfield => ?_, fun name => ?_⟩
  · rw [Setting.bind_at?]
    exact record.decided_of_read (read_scalar field _) (Setting.merged_below (h field hfield)) (hfields field).1
      (hfields field).2
  · rw [Setting.bind_at?]
    obtain ⟨hsome, hnone⟩ := hfields .modules
    cases hfound : found.bind fun tree => Dict.get? "modules" tree.members with
    | none =>
      have hempty : settings.modules = [] := hnone hfound
      rw [hempty]
      rfl
    | some setting =>
      obtain ⟨texts, hread, hnames⟩ := htexts _ setting hfound
      have hmodules : settings.modules = texts := Except.ok.inj ((hsome setting hfound).symm.trans hread)
      rw [hmodules]
      exact hnames name

/-- From a tree that is merged along the paths of all leaves a configuration is made, and each leaf of it is decided by
the scalar in its place. -/
theorem exists_ofSettings {tree : Setting} (h : ∀ leaf : Leaf, Merged leaf.Good leaf.path tree) :
    ∃ configuration, Configuration.ofSettings tree.members = .ok configuration ∧
      ∀ leaf : Leaf, decided leaf.read? (leaf.value {}) (tree.at? leaf.path) = some (leaf.value configuration) := by
  have hsection : ∀ {good name path}, Merged good (name :: path) tree →
      ∀ found ∈ Dict.get? name tree.members, Merged good path found := by
    rintro good name path ⟨members, source, rfl, -, hbelow⟩
    exact hbelow
  obtain ⟨generator, hgenerator, hpolicies⟩ : ∃ settings, _ ∧ _ :=
    Settings.exists_of_merged (fun field => by
      cases field with
      | unknownAlgorithm => exact hsection (h .unknownAlgorithm)
      | raggedRows => exact hsection (h .raggedRows))
  obtain ⟨logging, hlogging, hfields, hmodules⟩ : ∃ settings, _ ∧ _ ∧ _ :=
    LogSettings.exists_of_merged (fun field hne => by
      cases field with
      | enabled => exact hsection (h .enabled)
      | level => exact hsection (h .level)
      | format => exact hsection (h .format)
      | output => exact hsection (h .output)
      | file => exact hsection (h .file)
      | color => exact hsection (h .color)
      | modules => exact absurd rfl hne)
    fun name => hsection (h (.module name))
  refine ⟨{ generator, logging }, ?_, fun leaf => ?_⟩
  · unfold Configuration.ofSettings
    cases hg : Dict.get? "generator" tree.members <;> cases hl : Dict.get? "logging" tree.members <;>
      simp_all [ok_bind, pure, Except.pure]
  · cases leaf with
    | unknownAlgorithm => exact hpolicies .unknownAlgorithm
    | raggedRows => exact hpolicies .raggedRows
    | enabled => exact hfields .enabled (by decide)
    | level => exact hfields .level (by decide)
    | format => exact hfields .format (by decide)
    | output => exact hfields .output (by decide)
    | file => exact hfields .file (by decide)
    | color => exact hfields .color (by decide)
    | module name => exact hmodules name

end TableScript
