import Mathlib.Data.List.Find
import Mathlib.Data.List.Induction
import Mathlib.Data.List.TakeWhile
import TableScript.Proofs.Dict
import TableScript.Proofs.Text.Joining
import TableScript.Script.Template

/-!
# Filling at once

Filling binds one name after another, each in the text that the earlier ones have left.  If every opening brace of the
template is closed before the next one, and neither names nor values have braces, it comes to a single pass that
replaces all placeholders at once, and the order of the bindings does not matter (`fill_eq_substitute`).

The reason is a law of composition (`substitute_substitute`): one pass after another is one pass with the bindings of
both, since a value without an opening brace is copied by the second pass whatever stands behind it.
-/

namespace TableScript

/-- No braces, neither opening nor closing ones. -/
def Braceless (cs : List Char) : Prop :=
  ∀ c ∈ cs, c ≠ '{' ∧ c ≠ '}'

instance : DecidablePred Braceless := fun cs =>
  List.decidableBAll (fun c => c ≠ '{' ∧ c ≠ '}') cs

theorem Braceless.open_not_mem {cs : List Char} (h : Braceless cs) : '{' ∉ cs :=
  fun hmem => (h '{' hmem).1 rfl

theorem Braceless.close_not_mem {cs : List Char} (h : Braceless cs) : '}' ∉ cs :=
  fun hmem => (h '}' hmem).2 rfl

namespace Template

/-! ## The single pass -/

/-- Replaces placeholders after passing over the next `skipped` characters, which belong to one already replaced. -/
def substituteAfter (bindings : List (String × String)) : Nat → List Char → List Char
  | _, [] => []
  | skipped + 1, _ :: cs => substituteAfter bindings skipped cs
  | 0, c :: cs =>
    match bindings.find? fun binding => (placeholder binding.1.toList).isPrefixOf (c :: cs) with
    | some (name, value) => value.toList ++ substituteAfter bindings ((placeholder name.toList).length - 1) cs
    | none => c :: substituteAfter bindings 0 cs

/-- Goes through a text once, from left to right.  Where the placeholder of a bound name stands, its value is written
and the pass goes on behind the placeholder; any other character is copied. -/
def substitute (bindings : List (String × String)) (cs : List Char) : List Char :=
  substituteAfter bindings 0 cs

variable {bindings : List (String × String)}

theorem substitute_nil (cs : List Char) : substitute [] cs = cs := by
  induction cs with
  | nil => rfl
  | cons c cs ih => exact congrArg (c :: ·) ih

/-- Binding one name is a pass with this binding alone. -/
theorem bindChars_eq_substitute (name value : String) (cs : List Char) :
    bindChars cs name.toList value.toList = substitute [(name, value)] cs := by
  have hafter (skipped : Nat) : Text.replaceAfter (placeholder name.toList) value.toList skipped cs =
      substituteAfter [(name, value)] skipped cs := by
    induction cs generalizing skipped with
    | nil => cases skipped <;> rfl
    | cons c cs ih =>
      cases skipped with
      | succ skipped => exact ih skipped
      | zero =>
        rw [Text.replaceAfter, substituteAfter, List.find?_singleton, ih, ih]
        split <;> rfl
  exact hafter 0

/-- A text without opening braces is copied. -/
theorem substitute_append_of_not_mem {copied : List Char} (h : '{' ∉ copied) (cs : List Char) :
    substitute bindings (copied ++ cs) = copied ++ substitute bindings cs := by
  induction copied with
  | nil => rfl
  | cons c copied ih =>
    simp only [List.mem_cons, not_or] at h
    have hfind : bindings.find? (fun binding =>
        (placeholder binding.1.toList).isPrefixOf (c :: (copied ++ cs))) = none := by
      simp [placeholder, h.1]
    rw [List.cons_append, substitute, substituteAfter, hfind]
    exact congrArg (c :: ·) (ih h.2)

private theorem substituteAfter_length_append (skipped cs : List Char) :
    substituteAfter bindings skipped.length (skipped ++ cs) = substitute bindings cs := by
  induction skipped with
  | nil => rfl
  | cons c skipped ih => rw [List.length_cons, List.cons_append, substituteAfter, ih]

/-- A placeholder stands in front of a text only if the text begins with that very placeholder. -/
theorem placeholder_prefix_iff {name other : List Char} (h : '}' ∉ name) (ho : '}' ∉ other)
    (rest : List Char) : placeholder name <+: placeholder other ++ rest ↔ name = other := by
  constructor
  · rintro ⟨more, he⟩
    have he : name ++ '}' :: more = other ++ '}' :: rest := by simpa [placeholder] using he
    have hs := congrArg (Text.splitOn '}') he
    rw [Text.splitOn_append_cons h, Text.splitOn_append_cons ho] at hs
    exact (List.cons.inj hs).1
  · rintro rfl
    exact List.prefix_append _ _

/-- What is written for a placeholder: the value of its name, or the placeholder itself if the name has none. -/
def written (bindings : List (String × String)) (name : String) : List Char :=
  match Dict.get? name bindings with
  | some value => value.toList
  | none => placeholder name.toList

theorem substitute_placeholder_append (hb : ∀ binding ∈ bindings, '}' ∉ binding.1.toList) {name : String}
    (hopen : '{' ∉ name.toList) (hclose : '}' ∉ name.toList) (rest : List Char) :
    substitute bindings (placeholder name.toList ++ rest) = written bindings name ++ substitute bindings rest := by
  have hfind : bindings.find? (fun binding =>
      (placeholder binding.1.toList).isPrefixOf (placeholder name.toList ++ rest)) =
        (Dict.get? name bindings).map (name, ·) := by
    rw [← Dict.find?_key]
    refine List.find?_congr fun binding hmem => ?_
    rw [Bool.eq_iff_iff, List.isPrefixOf_iff_prefix, placeholder_prefix_iff (hb binding hmem) hclose,
      decide_eq_true_iff, String.toList_inj]
  rw [placeholder, List.cons_append] at hfind ⊢
  rw [substitute, substituteAfter, hfind, written]
  cases Dict.get? name bindings with
  | none =>
    have hcopied : '{' ∉ name.toList ++ ['}'] := by simp [hopen]
    exact congrArg ('{' :: ·) (substitute_append_of_not_mem hcopied rest)
  | some value => exact congrArg (value.toList ++ ·) (substituteAfter_length_append (name.toList ++ ['}']) rest)

/-! ## The shape of templates -/

/-- Each opening brace is closed before the next one. -/
def Closed : List Char → Prop
  | [] => True
  | c :: cs => (c = '{' → '}' ∈ cs.takeWhile (· ≠ '{')) ∧ Closed cs

instance Closed.decidable : DecidablePred Closed
  | [] => isTrue trivial
  | _ :: cs => @instDecidableAnd _ _ _ (Closed.decidable cs)

theorem Closed.of_append {before cs : List Char} (h : Closed (before ++ cs)) : Closed cs := by
  induction before with
  | nil => exact h
  | cons c before ih => exact ih h.2

theorem Closed.append_of_not_mem {copied rest : List Char} (hc : '{' ∉ copied) (h : Closed rest) :
    Closed (copied ++ rest) := by
  induction copied with
  | nil => exact h
  | cons c copied ih =>
    simp only [List.mem_cons, not_or] at hc
    exact ⟨fun he => absurd he.symm hc.1, ih hc.2⟩

/-- The first brace of a text that begins with one is part of a placeholder. -/
theorem Closed.exists_placeholder {cs : List Char} (h : Closed ('{' :: cs)) :
    ∃ (name : String) (rest : List Char), '{' :: cs = placeholder name.toList ++ rest ∧
      '{' ∉ name.toList ∧ '}' ∉ name.toList ∧ Closed rest := by
  obtain ⟨name, more, hmore, hclose⟩ := List.eq_append_cons_of_mem (h.1 rfl)
  have hcs : cs = name ++ '}' :: (more ++ cs.dropWhile (· ≠ '{')) := by
    rw [← List.cons_append, ← List.append_assoc, ← hmore, List.takeWhile_append_dropWhile]
  have hopen : '{' ∉ name := by
    intro hmem
    have hne := List.mem_takeWhile_imp (hmore ▸ List.mem_append_left _ hmem)
    exact absurd hne (by decide)
  refine ⟨String.ofList name, more ++ cs.dropWhile (· ≠ '{'), ?_, ?_, ?_, ?_⟩
  · simpa [placeholder] using hcs
  · rwa [String.toList_ofList]
  · rwa [String.toList_ofList]
  · have hrest := h.2
    rw [hcs, ← List.singleton_append, ← List.append_assoc] at hrest
    exact hrest.of_append

/-- A template is the text of copied characters, which are no opening braces, and of placeholders. -/
inductive IsTemplate : List Char → Prop
  | nil : IsTemplate []
  | copied {c : Char} {cs : List Char} (hc : c ≠ '{') (h : IsTemplate cs) : IsTemplate (c :: cs)
  | hole {name : String} {rest : List Char} (hopen : '{' ∉ name.toList) (hclose : '}' ∉ name.toList)
      (h : IsTemplate rest) : IsTemplate (placeholder name.toList ++ rest)

theorem Closed.isTemplate {cs : List Char} (h : Closed cs) : IsTemplate cs := by
  match cs, h with
  | [], _ => exact IsTemplate.nil
  | c :: cs, h =>
    by_cases hc : c = '{'
    · subst hc
      obtain ⟨name, rest, heq, hopen, hclose, hrest⟩ := h.exists_placeholder
      have hlength : rest.length < cs.length + 1 := by
        have := congrArg List.length heq
        simp [placeholder] at this
        omega
      rw [heq]
      exact hrest.isTemplate.hole hopen hclose
    · exact h.2.isTemplate.copied hc
termination_by cs.length

theorem IsTemplate.closed {cs : List Char} (h : IsTemplate cs) : Closed cs := by
  induction h with
  | nil => trivial
  | copied hc _ ih => exact ⟨fun he => absurd he hc, ih⟩
  | @hole name rest hopen hclose _ ih =>
    have hcopied : '{' ∉ name.toList ++ ['}'] := by simp [hopen]
    have hmem : '}' ∈ (name.toList ++ ['}'] ++ rest).takeWhile (· ≠ '{') := by
      rw [List.takeWhile_append_of_pos fun c hc => by simpa using ne_of_mem_of_not_mem hc hcopied]
      simp
    exact ⟨fun _ => hmem, Closed.append_of_not_mem hcopied ih⟩

/-- Templates are the texts in which each opening brace is closed before the next one. -/
theorem isTemplate_iff {cs : List Char} : IsTemplate cs ↔ Closed cs :=
  ⟨IsTemplate.closed, Closed.isTemplate⟩

theorem IsTemplate.append_of_not_mem {copied rest : List Char} (hc : '{' ∉ copied) (h : IsTemplate rest) :
    IsTemplate (copied ++ rest) :=
  isTemplate_iff.2 (h.closed.append_of_not_mem hc)

/-! ## One pass after another -/

theorem substitute_cons_of_ne {c : Char} (h : c ≠ '{') (cs : List Char) :
    substitute bindings (c :: cs) = c :: substitute bindings cs := by
  have hcopied : '{' ∉ [c] := by simpa using h.symm
  exact substitute_append_of_not_mem hcopied cs

/-- What the first pass has written is passed over by the second one, and what it has left is left to the second. -/
theorem substitute_substitute {earlier later : List (String × String)} {cs : List Char} (h : IsTemplate cs)
    (he : ∀ binding ∈ earlier, '}' ∉ binding.1.toList ∧ '{' ∉ binding.2.toList)
    (hl : ∀ binding ∈ later, '}' ∉ binding.1.toList) :
    substitute later (substitute earlier cs) = substitute (earlier ++ later) cs := by
  have hboth : ∀ binding ∈ earlier ++ later, '}' ∉ binding.1.toList :=
    List.forall_mem_append.2 ⟨fun binding hb => (he binding hb).1, hl⟩
  induction h with
  | nil => rfl
  | copied hc _ ih =>
    rw [substitute_cons_of_ne hc, substitute_cons_of_ne hc, substitute_cons_of_ne hc, ih]
  | @hole name rest hopen hclose _ ih =>
    rw [substitute_placeholder_append (fun binding hb => (he binding hb).1) hopen hclose,
      substitute_placeholder_append hboth hopen hclose, ← ih]
    cases hget : Dict.get? name earlier with
    | none =>
      have hwritten : written (earlier ++ later) name = written later name := by
        rw [written, Dict.get?_append, hget, Option.none_or, written]
      rw [hwritten, written, hget, substitute_placeholder_append hl hopen hclose]
    | some value =>
      have hwritten : written (earlier ++ later) name = value.toList := by
        rw [written, Dict.get?_append, hget, Option.some_or]
      -- no placeholder begins inside the value, so the second pass copies it
      rw [hwritten, written, hget, substitute_append_of_not_mem (he _ (Dict.mem_of_get? hget)).2]

/-- Binding one name after another is a single pass.  The value that is bound last may hold anything. -/
theorem foldl_bindChars {cs : List Char} (h : IsTemplate cs) (hn : ∀ binding ∈ bindings, '}' ∉ binding.1.toList)
    (hv : ∀ binding ∈ bindings.dropLast, '{' ∉ binding.2.toList) :
    bindings.foldl (fun text binding => bindChars text binding.1.toList binding.2.toList) cs =
      substitute bindings cs := by
  -- from the back, so that all passes but the last are one pass over the template itself
  induction bindings using List.reverseRecOn with
  | nil => exact (substitute_nil cs).symm
  | append_singleton earlier last ih =>
    rw [List.dropLast_concat] at hv
    rw [List.forall_mem_append] at hn
    have hearlier := ih hn.1 fun binding hb => hv binding (List.dropLast_subset _ hb)
    rw [List.foldl_concat, hearlier, bindChars_eq_substitute]
    exact substitute_substitute h (fun binding hb => ⟨hn.1 binding hb, hv binding hb⟩) hn.2

/-- A pass depends on the values of the names. -/
theorem substitute_congr {cs : List Char} (h : IsTemplate cs) {others : List (String × String)}
    (hb : ∀ binding ∈ bindings, '}' ∉ binding.1.toList) (ho : ∀ binding ∈ others, '}' ∉ binding.1.toList)
    (hget : ∀ name, Dict.get? name bindings = Dict.get? name others) :
    substitute bindings cs = substitute others cs := by
  induction h with
  | nil => rfl
  | copied hc _ ih => rw [substitute_cons_of_ne hc, substitute_cons_of_ne hc, ih]
  | @hole name rest hopen hclose _ ih =>
    rw [substitute_placeholder_append hb hopen hclose, substitute_placeholder_append ho hopen hclose, ih, written,
      written, hget]

theorem fill_of_braceless {template : String} {bindings : List (String × String)} (h : Closed template.toList)
    (hplain : ∀ binding ∈ bindings, Braceless binding.1.toList ∧ Braceless binding.2.toList) :
    fill template bindings = String.ofList (substitute bindings template.toList) := by
  have hnames : ∀ binding ∈ bindings, '}' ∉ binding.1.toList := fun binding hb => (hplain binding hb).1.close_not_mem
  have hvalues : ∀ binding ∈ bindings.dropLast, '{' ∉ binding.2.toList :=
    fun binding hb => (hplain binding (List.dropLast_subset _ hb)).2.open_not_mem
  rw [fill, foldl_bindChars (isTemplate_iff.2 h) hnames hvalues]

/-- Filling is a single pass from left to right that puts the values of all names in the places of their placeholders,
if each opening brace of the template is closed before the next one, the names differ, and neither names nor values have
braces.  The order of the bindings then makes no difference. -/
theorem fill_eq_substitute {template : String} {bindings : List (String × String)} (h : Closed template.toList)
    (hnames : (bindings.map Prod.fst).Nodup)
    (hplain : ∀ binding ∈ bindings, Braceless binding.1.toList ∧ Braceless binding.2.toList) :
    fill template bindings = String.ofList (substitute bindings template.toList) ∧
      ∀ reordered, bindings.Perm reordered → fill template reordered = fill template bindings := by
  refine ⟨fill_of_braceless h hplain, fun reordered hperm => ?_⟩
  have hplain' : ∀ binding ∈ reordered, Braceless binding.1.toList ∧ Braceless binding.2.toList :=
    fun binding hb => hplain binding (hperm.mem_iff.2 hb)
  have hpass : substitute reordered template.toList = substitute bindings template.toList :=
    substitute_congr (isTemplate_iff.2 h) (fun binding hb => (hplain' binding hb).1.close_not_mem)
      (fun binding hb => (hplain binding hb).1.close_not_mem) fun name => (Dict.get?_perm hnames hperm name).symm
  rw [fill_of_braceless h hplain, fill_of_braceless h hplain', hpass]

/-- Values that are the names of other placeholders are not filled in turn. -/
theorem fill_swapped_names :
    Closed "\x7bx\x7d + \x7by\x7d = \x7bz\x7d\x7d".toList ∧
      ([("x", "y"), ("y", "x")].map Prod.fst).Nodup ∧
      (∀ binding ∈ [("x", "y"), ("y", "x")], Braceless binding.1.toList ∧ Braceless binding.2.toList) ∧
      fill "\x7bx\x7d + \x7by\x7d = \x7bz\x7d\x7d" [("x", "y"), ("y", "x")] = "y + x = \x7bz\x7d\x7d" ∧
      fill "\x7bx\x7d + \x7by\x7d = \x7bz\x7d\x7d" [("y", "x"), ("x", "y")] = "y + x = \x7bz\x7d\x7d" := by
  have hclosed : Closed "\x7bx\x7d + \x7by\x7d = \x7bz\x7d\x7d".toList := by decide
  have hnames : ([("x", "y"), ("y", "x")].map Prod.fst).Nodup := by decide
  have hplain : ∀ binding ∈ [("x", "y"), ("y", "x")], Braceless binding.1.toList ∧ Braceless binding.2.toList := by
    decide
  obtain ⟨hfill, horder⟩ := fill_eq_substitute hclosed hnames hplain
  have hpass : String.ofList (substitute [("x", "y"), ("y", "x")] "\x7bx\x7d + \x7by\x7d = \x7bz\x7d\x7d".toList) =
      "y + x = \x7bz\x7d\x7d" := by decide
  exact ⟨hclosed, hnames, hplain, hfill.trans hpass,
    (horder [("y", "x"), ("x", "y")] (List.Perm.swap _ _ _)).trans (hfill.trans hpass)⟩

/-- Where a brace is opened before the last one is closed, a value can close up a placeholder. -/
example : fill "\x7b\x7bx\x7dy\x7d" [("x", ""), ("y", "1")] = "1" ∧
    fill "\x7b\x7bx\x7dy\x7d" [("y", "1"), ("x", "")] = "\x7by\x7d" := by
  decide

end Template

end TableScript
