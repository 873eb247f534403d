import Mathlib.Data.List.Forall2
import TableScript.Proofs.Configuration.Leaves

/-!
# Well-typed sources

A source is well typed if it fits along the path of each leaf.  There is a leaf for every name that a module may have,
and still it can be decided whether a source is well typed, because it can be asked of all the members of a table at
once (`wellTyped_iff`).
-/

namespace TableScript

namespace Setting

/-- A path leads along a pattern, in which a missing name stands for any. -/
abbrev Matches : List (Option String) → List String → Prop :=
  List.Forall₂ fun name? name => ∀ other ∈ name?, other = name

/-- Whether a setting fits along all paths of a pattern. -/
def fitsAll (good : Scalar → Bool) : List (Option String) → Setting → Bool
  | [], scalar value _ => good value
  | name? :: pattern, table members _ => members.all fun member =>
      name?.any (· ≠ Text.lowerCase member.1) || fitsAll good pattern member.2
  | _, _ => false

/-- Whether a setting under a key with steps fits along all paths of a pattern. -/
def stepsFitAll (good : Scalar → Bool) : List (Option String) → List KeyStep → Setting → Bool
  | pattern, [], new => fitsAll good pattern new
  | name? :: pattern, .member key :: steps, new => name?.any (· ≠ key) || stepsFitAll good pattern steps new
  | _, _, _ => false

variable {good : Scalar → Bool} {pattern : List (Option String)}

theorem exists_matches (pattern : List (Option String)) : ∃ path, Matches pattern path := by
  induction pattern with
  | nil => exact ⟨[], .nil⟩
  | cons name? pattern ih =>
    obtain ⟨path, hpath⟩ := ih
    refine ⟨name?.getD "" :: path, .cons (fun other hother => ?_) hpath⟩
    rw [Option.mem_def.1 hother, Option.getD_some]

theorem matches_map_some_iff {names path : List String} : Matches (names.map some) path ↔ path = names := by
  constructor
  · intro h
    induction names generalizing path with
    | nil => exact List.forall₂_nil_left_iff.1 h
    | cons name names ih =>
      obtain ⟨first, rest, hname, hrest, rfl⟩ := List.forall₂_cons_left_iff.1 h
      rw [hname name rfl, ih hrest]
  · rintro rfl
    induction path with
    | nil => exact .nil
    | cons name path ih => exact .cons (fun other h => (Option.some.inj h).symm) ih

/-- A part of a pattern excludes a name, or matches it. -/
theorem any_ne_eq_false_iff {name? : Option String} {name : String} :
    name?.any (· ≠ name) = false ↔ ∀ other ∈ name?, other = name := by
  cases name? <;> simp

theorem fitsAll_iff {setting : Setting} :
    fitsAll good pattern setting ↔ ∀ path, Matches pattern path → Fits (fun value => good value) path setting := by
  induction pattern generalizing setting with
  | nil =>
    cases setting with
    | scalar value source => simp [fitsAll, Fits]
    | list items source | table members source => simp [fitsAll, Fits]
  | cons name? pattern ih =>
    cases setting with
    | scalar value source | list items source =>
      obtain ⟨path, hpath⟩ := exists_matches (name? :: pattern)
      refine iff_of_false (by simp [fitsAll]) fun h => ?_
      have hfits := h path hpath
      cases hpath
      obtain ⟨_, _, htable, -⟩ := hfits
      cases htable
    | table members source =>
      rw [fitsAll, List.all_eq_true]
      constructor
      · rintro h path (_ | ⟨hname, hpath⟩)
        refine ⟨members, source, rfl, fun member hmember hkey => ?_⟩
        have hall := h member hmember
        rw [hkey, any_ne_eq_false_iff.2 hname, Bool.false_or] at hall
        exact ih.1 hall _ hpath
      · intro h member hmember
        rw [Bool.or_eq_true, or_iff_not_imp_left, Bool.not_eq_true, any_ne_eq_false_iff, ih]
        intro hname path hpath
        obtain ⟨_, _, htable, hall⟩ := h (_ :: path) (.cons hname hpath)
        cases htable
        exact hall member hmember rfl

theorem stepsFitAll_iff {steps : List KeyStep} {new : Setting} : stepsFitAll good pattern steps new ↔
    ∀ path, Matches pattern path → StepsFit (fun value => good value) path steps new := by
  induction steps generalizing pattern with
  | nil => simpa [stepsFitAll, StepsFit] using fitsAll_iff
  | cons step steps ih =>
    cases pattern with
    | nil => simp [stepsFitAll, StepsFit]
    | cons name? pattern =>
      cases step with
      | item index =>
        obtain ⟨path, hpath⟩ := exists_matches (name? :: pattern)
        refine iff_of_false (by simp [stepsFitAll]) fun h => ?_
        have hfit := h path hpath
        cases hpath
        exact hfit
      | member key =>
        rw [stepsFitAll]
        constructor
        · rintro h path (_ | ⟨hname, hpath⟩) hkey
          rw [hkey, any_ne_eq_false_iff.2 hname, Bool.false_or] at h
          exact ih.1 h _ hpath
        · intro h
          rw [Bool.or_eq_true, or_iff_not_imp_left, Bool.not_eq_true, any_ne_eq_false_iff, ih]
          intro hname path hpath
          exact h (key :: path) (.cons hname hpath) rfl

/-- Whether a source fits along all paths of a pattern. -/
def sourceFitsAll (good : Scalar → Bool) (pattern : List (Option String)) (source : List (String × Setting)) : Bool :=
  source.all fun member => stepsFitAll good pattern (keyPath member.1) member.2

theorem sourceFitsAll_iff {source : List (String × Setting)} : sourceFitsAll good pattern source ↔
    ∀ path, Matches pattern path → SourceFits (fun value => good value) path source := by
  simp only [sourceFitsAll, List.all_eq_true, stepsFitAll_iff, SourceFits]
  exact ⟨fun h path hpath member hmember => h member hmember path hpath,
    fun h member hmember path hpath => h path hpath member hmember⟩

end Setting

/-- A source is a table of the right kinds: there are tables where leaves are in tables, and scalars of their kinds
where the leaves are. -/
def WellTyped (source : List (String × Setting)) : Prop :=
  ∀ leaf : Leaf, Setting.SourceFits leaf.Good leaf.path source

/-- The leaves that there is one of. -/
def Leaf.single : List Leaf :=
  [unknownAlgorithm, raggedRows, enabled, level, format, output, file, color]

theorem wellTyped_iff {source : List (String × Setting)} : WellTyped source ↔
    (∀ leaf ∈ Leaf.single,
      Setting.sourceFitsAll (fun value => (leaf.read? value).isSome) (leaf.path.map some) source) ∧
    Setting.sourceFitsAll (fun value => ((Setting.scalar value none).toText "").toOption.isSome)
      [some "logging", some "modules", none] source := by
  have hmodule : ∀ name, (fun value => ((Setting.scalar value none).toText "").toOption.isSome = true) =
      (Leaf.module name).Good := fun name => by simp [funext_iff, Leaf.Good, Leaf.read?]
  simp only [Setting.sourceFitsAll_iff, Setting.matches_map_some_iff, forall_eq]
  constructor
  · intro h
    refine ⟨fun leaf _ => h leaf, ?_⟩
    rintro path (_ | ⟨hlogging, _ | ⟨hmodules, _ | ⟨hname, _ | _⟩⟩⟩)
    rw [← hlogging _ rfl, ← hmodules _ rfl, hmodule]
    exact h (.module _)
  · rintro ⟨hsingle, hmodules⟩ leaf
    by_cases hleaf : leaf ∈ Leaf.single
    · exact hsingle leaf hleaf
    · obtain ⟨name, rfl⟩ : ∃ name, leaf = .module name := by
        cases leaf with
        | module name => exact ⟨name, rfl⟩
        | _ => exact absurd (by decide) hleaf
      rw [← hmodule name]
      exact hmodules _ (.cons (by simp) (.cons (by simp) (.cons (by simp) .nil)))

instance (source : List (String × Setting)) : Decidable (WellTyped source) :=
  decidable_of_iff' _ wellTyped_iff

end TableScript
