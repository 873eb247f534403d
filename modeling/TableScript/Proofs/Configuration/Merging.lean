import TableScript.Configuration.Setting
import TableScript.Proofs.Dict

/-!
# Merging settings

A source says a scalar at the end of a path, or nothing.  Laid over a tree of settings it changes the scalars that
it says and no others, whatever tables they are in (`follows_layOver`, `follows_put`, `follows_putAll`).  So of sources
laid over each other the last that says something at the end of a path decides on it (`follows_foldl_putAll`).  All
this holds along paths on which the sources have tables, with a scalar of the right kind at the end, as far as they
have anything.
-/

namespace TableScript.Setting

/-- The scalar at the end of a path in a tree of settings. -/
def at? : List String → Setting → Option Scalar
  | [], scalar value _ => some value
  | [], _ => none
  | name :: path, setting => (Dict.get? name setting.members).bind (at? path)

/-- What a setting of a source says at the end of a path.  Keys count without their case, and among those of one name
the last that says something. -/
def said? : List String → Setting → Option Scalar
  | [], scalar value _ => some value
  | [], _ => none
  | name :: path, setting => setting.members.reverse.findSome? fun member =>
      if Text.lowerCase member.1 = name then said? path member.2 else none

/-- Along a path a setting of a source has tables, and at its end a good scalar, as far as it has anything. -/
def Fits (good : Scalar → Prop) : List String → Setting → Prop
  | [], setting => ∃ value source, setting = scalar value source ∧ good value
  | name :: path, setting => ∃ members source, setting = table members source ∧
      ∀ member ∈ members, Text.lowerCase member.1 = name → Fits good path member.2

/-- The same of a tree of settings, whose tables have their keys in order. -/
def Merged (good : Scalar → Prop) : List String → Setting → Prop
  | [], setting => ∃ value source, setting = scalar value source ∧ good value
  | name :: path, setting => ∃ members source, setting = table members source ∧ Dict.Ordered members ∧
      ∀ tree ∈ Dict.get? name members, Merged good path tree

variable {good : Scalar → Prop} {path : List String} {name : String}

/-! ## A setting over another -/

/-- A tree is merged along a path, and has at its end what is said there or else what the old tree has. -/
def Follows (good : Scalar → Prop) (path : List String) (said : Option Scalar) (old : Option Setting)
    (tree : Setting) : Prop :=
  Merged good path tree ∧ tree.at? path = said.or (old.bind (at? path))

/-- The members of a tree that is merged along a path, if there is one. -/
theorem merged_members {old : Option Setting} (hold : ∀ tree ∈ old, Merged good (name :: path) tree) :
    Dict.Ordered ((old.map members).getD []) ∧
      (∀ tree ∈ Dict.get? name ((old.map members).getD []), Merged good path tree) ∧
        old.bind (at? (name :: path)) = (Dict.get? name ((old.map members).getD [])).bind (at? path) := by
  cases old with
  | none => exact ⟨List.Pairwise.nil, by simp [Dict.get?], by simp [Dict.get?]⟩
  | some tree =>
    obtain ⟨members, source, rfl, hordered, hbelow⟩ := hold tree rfl
    exact ⟨hordered, hbelow, rfl⟩

/-- What an insertion does to a table, when it is known what it does below. -/
theorem follows_insert {key : String} {old : Option Setting} {tree : Setting} {said : Option Scalar}
    (hold : ∀ tree ∈ old, Merged good (name :: path) tree)
    (hbelow : key = name → Follows good path said (Dict.get? name ((old.map members).getD [])) tree)
    (hbeside : key ≠ name → said = none) (source : Option String) :
    Follows good (name :: path) said old (table (Dict.insert key tree ((old.map members).getD [])) source) := by
  obtain ⟨hordered, hmerged, hat⟩ := merged_members hold
  refine ⟨⟨_, _, rfl, Dict.ordered_insert hordered key tree, fun found hfound => ?_⟩, ?_⟩
  · rw [Dict.get?_insert] at hfound
    split at hfound
    · rename_i hkey
      cases hfound
      exact (hbelow hkey).1
    · exact hmerged found hfound
  · rw [hat, at?, members, Dict.get?_insert]
    split
    · rename_i hkey
      rw [Option.bind_some, (hbelow hkey).2]
    · rename_i hkey
      rw [hbeside hkey, Option.none_or]

/-- What members do to a table, when it is known what each of them does below. -/
theorem follows_overMembers {new : List (String × Setting)} {old : Option Setting}
    (hstep : ∀ new old, Fits good path new → (∀ tree ∈ old, Merged good path tree) →
      Follows good path (said? path new) old (layOver new old))
    (hnew : ∀ member ∈ new, Text.lowerCase member.1 = name → Fits good path member.2)
    (hold : ∀ tree ∈ old, Merged good (name :: path) tree) (source : Option String) :
    Follows good (name :: path) (said? (name :: path) (table new none)) old
      (table (overMembers new ((old.map members).getD [])) source) := by
  induction new generalizing old with
  | nil =>
    obtain ⟨hordered, hmerged, hat⟩ := merged_members hold
    exact ⟨⟨_, _, rfl, hordered, hmerged⟩, hat.symm⟩
  | cons member rest ih =>
    obtain ⟨key, new⟩ := member
    rw [List.forall_mem_cons] at hnew
    have hinsert : Follows good (name :: path) (if Text.lowerCase key = name then said? path new else none) old
        (table (Dict.insert (Text.lowerCase key) (layOver new (Dict.get? (Text.lowerCase key)
          ((old.map members).getD []))) ((old.map members).getD [])) none) := by
      refine follows_insert hold (fun hkey => ?_) (fun hkey => if_neg hkey) none
      rw [if_pos hkey, hkey]
      exact hstep new _ (hnew.1 hkey) (merged_members hold).2.1
    obtain ⟨hmerged, hrest⟩ := ih hnew.2 fun _ h => (Option.some.inj h) ▸ hinsert.1
    refine ⟨hmerged, hrest.trans ?_⟩
    rw [Option.bind_some, hinsert.2, ← Option.or_assoc]
    congr 1
    simp [said?, members, List.findSome?_append]

/-- A setting that fits along a path is laid over a tree that is merged along it. -/
theorem follows_layOver {new : Setting} {old : Option Setting} (hnew : Fits good path new)
    (hold : ∀ tree ∈ old, Merged good path tree) : Follows good path (said? path new) old (layOver new old) := by
  induction path generalizing new old with
  | nil =>
    obtain ⟨value, source, rfl, hvalue⟩ := hnew
    rw [layOver]
    exact ⟨⟨value, source, rfl, hvalue⟩, rfl⟩
  | cons name path ih =>
    obtain ⟨new, source, rfl, hnew⟩ := hnew
    have htable := follows_overMembers (fun _ _ => ih) hnew hold
    rw [layOver]
    split
    · -- an empty table changes nothing, and stands for itself where there is nothing
      rename_i hempty
      rw [List.isEmpty_iff.1 hempty] at htable ⊢
      cases old with
      | none => exact htable none
      | some tree => exact ⟨hold tree rfl, rfl⟩
    · exact htable _

/-! ## A source over a tree -/

/-- What a setting under a key with steps says at the end of a path. -/
def stepsSaid? : List String → List KeyStep → Setting → Option Scalar
  | path, [], new => said? path new
  | name :: path, .member key :: steps, new => if key = name then stepsSaid? path steps new else none
  | _, _, _ => none

/-- A setting under a key with steps fits along a path, as far as the steps lead along it; they do not lead into what
is at its end. -/
def StepsFit (good : Scalar → Prop) : List String → List KeyStep → Setting → Prop
  | path, [], new => Fits good path new
  | name :: path, .member key :: steps, new => key = name → StepsFit good path steps new
  | _, _, _ => False

theorem follows_put {steps : List KeyStep} {new : Setting} {old : Option Setting}
    (hnew : StepsFit good path steps new) (hold : ∀ tree ∈ old, Merged good path tree) :
    Follows good path (stepsSaid? path steps new) old (put new steps old) := by
  induction steps generalizing path old with
  | nil =>
    have hfits : Fits good path new := by simpa [StepsFit] using hnew
    simpa [put, stepsSaid?] using follows_layOver hfits hold
  | cons step steps ih =>
    cases path with
    | nil => simp [StepsFit] at hnew
    | cons name path =>
      cases step with
      | item index => simp [StepsFit] at hnew
      | member key =>
        rw [StepsFit] at hnew
        rw [put, stepsSaid?]
        refine follows_insert hold (fun hkey => ?_) (fun hkey => if_neg hkey) _
        rw [if_pos hkey, hkey]
        exact ih (hnew hkey) (merged_members hold).2.1

/-- What is laid over a tree one after another, the last counting that says something. -/
theorem follows_foldl {ι : Type} {lay : Setting → ι → Setting} {said : ι → Option Scalar} {items : List ι}
    {tree : Setting} (hstep : ∀ i ∈ items, ∀ tree, Merged good path tree →
      Follows good path (said i) (some tree) (lay tree i)) (htree : Merged good path tree) :
    Follows good path (items.reverse.findSome? said) (some tree) (items.foldl lay tree) := by
  induction items generalizing tree with
  | nil => exact ⟨htree, rfl⟩
  | cons i items ih =>
    rw [List.forall_mem_cons] at hstep
    obtain ⟨hmerged, hat⟩ := hstep.1 tree htree
    obtain ⟨hmerged, hrest⟩ := ih hstep.2 hmerged
    refine ⟨hmerged, hrest.trans ?_⟩
    rw [Option.bind_some, hat, ← Option.or_assoc]
    congr 1
    simp [List.findSome?_append]

/-- What a source says at the end of a path. -/
def sourceSaid? (path : List String) (source : List (String × Setting)) : Option Scalar :=
  source.reverse.findSome? fun member => stepsSaid? path (keyPath member.1) member.2

/-- A source fits along a path. -/
def SourceFits (good : Scalar → Prop) (path : List String) (source : List (String × Setting)) : Prop :=
  ∀ member ∈ source, StepsFit good path (keyPath member.1) member.2

theorem follows_putAll {source : List (String × Setting)} {tree : Setting} (hsource : SourceFits good path source)
    (htree : Merged good path tree) : Follows good path (sourceSaid? path source) (some tree) (putAll tree source) :=
  follows_foldl (fun member hmember _ htree =>
    follows_put (hsource member hmember) fun _ h => (Option.some.inj h) ▸ htree) htree

/-- Of sources that are laid over a tree one after another, the last that says something decides. -/
theorem follows_foldl_putAll {sources : List (List (String × Setting))} {tree : Setting}
    (hsources : ∀ source ∈ sources, SourceFits good path source) (htree : Merged good path tree) :
    Follows good path (sources.reverse.findSome? (sourceSaid? path)) (some tree) (sources.foldl putAll tree) :=
  follows_foldl (fun source hsource _ => follows_putAll (hsources source hsource)) htree

end TableScript.Setting
