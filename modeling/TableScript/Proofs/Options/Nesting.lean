import TableScript.Proofs.Options.Overriding

/-!
# Own fields over nested fields

The own fields of a form count before those nested under `options`, name by name: a form is what comes of inserting
its own fields into a form that has the nested ones only (`get?_insertAll_ownPairs`).  What holds of settings over an
option file therefore holds here: own fields win as long as no nested field holds the option under a name that counts
before theirs.
-/

namespace TableScript

namespace Form

variable {form stripped : Form} {names : List String}

/-- The form that has only the nested fields of a form. -/
def nestedPart (form : Form) : Form :=
  ⟨form.fields.filter fun field => field.1 = nestedName⟩

/-- The own fields of a form.  Of fields with the same name the first counts, so that they are inserted from the last
on. -/
def ownPairs (form : Form) : List (String × String) :=
  (form.fields.filter fun field => field.1 ≠ nestedName).reverse

/-- A form without the own fields that have some names. -/
def without (names : List String) (form : Form) : Form :=
  ⟨form.fields.filter fun field => field.1 ∉ names⟩

/-! ## A form as nested fields with own fields inserted -/

theorem get?_nestedPart (form : Form) (name : String) :
    form.nestedPart.get? name = if name = nestedName then form.get? name else none := by
  rw [get?, nestedPart, Dict.get?_filter name (fun n => decide (n = nestedName)), get?]
  simp only [decide_eq_true_eq]

theorem nested?_nestedPart (form : Form) : form.nestedPart.nested? = form.nested? :=
  nested?_congr (by rw [get?_nestedPart, if_pos rfl])

theorem get?_reverse_ownPairs (form : Form) (name : String) :
    Dict.get? name form.ownPairs.reverse = if name = nestedName then none else form.get? name := by
  rw [ownPairs, List.reverse_reverse, Dict.get?_filter name (fun n => decide (n ≠ nestedName)), get?]
  by_cases hname : name = nestedName <;> simp [hname]

theorem nestedName_not_mem_ownPairs (form : Form) : nestedName ∉ form.ownPairs.map Prod.fst := by
  simp [ownPairs]

/-- A form with the own fields of another is its nested part with these inserted. -/
theorem get?_insertAll_ownPairs {other : Form} (h : ∀ name ≠ nestedName, other.get? name = form.get? name)
    (name : String) : (other.nestedPart.insertAll form.ownPairs).get? name = other.get? name := by
  rw [get?_insertAll, get?_reverse_ownPairs, get?_nestedPart]
  by_cases hname : name = nestedName
  · simp [hname]
  · simp [hname, h name hname]

/-- Own fields that do not set an option are those without its names. -/
theorem get?_insertAll_unset_ownPairs (form : Form) (option : FormOption) (name : String) :
    (form.nestedPart.insertAll (unset option form.ownPairs)).get? name = (form.without option.names).get? name := by
  rw [get?_insertAll, unset, ← List.filter_reverse, Dict.get?_filter name (fun n => decide (n ∉ option.names)),
    get?_reverse_ownPairs, get?_nestedPart, without, get?, get?, get?_flat, get?]
  by_cases hname : name = nestedName
  · simp [hname, option.nestedName_not_mem_names]
  · by_cases hmem : name ∈ option.names <;> simp [hname, hmem]

/-! ## Forms without some nested fields -/

/-- A form without some names among its nested fields. -/
structure NestedStripped (names : List String) (form stripped : Form) : Prop where
  own : ∀ name ≠ nestedName, stripped.get? name = form.get? name
  nested : ∃ texts left, form.nested? = some texts ∧ stripped.nested? = some left ∧
    ∀ name, Dict.get? name left = if name ∈ names then none else Dict.get? name texts

/-- Drops some names from the nested fields of a form. -/
def stripNested (names : List String) (form : Form) : Form :=
  (form.nestedPart.strip names).insertAll form.ownPairs

/-- Every form whose nested fields are an object of scalars can be stripped of some. -/
theorem nestedStripped_stripNested (names : List String) (h : form.nested?.isSome) :
    NestedStripped names form (form.stripNested names) := by
  have htable : form.nestedPart.nested?.isSome := by rwa [nested?_nestedPart]
  have hstrip := stripped_strip names htable
  refine ⟨fun name hname => ?_, ?_⟩
  · rw [stripNested, get?_insertAll, get?_reverse_ownPairs, if_neg hname, hstrip.flat name hname, get?_nestedPart,
      if_neg hname, ite_self, Option.or_none]
  · rw [stripNested, nested?_insertAll_of_not_mem form.nestedName_not_mem_ownPairs, ← form.nested?_nestedPart]
    exact hstrip.nested

/-- The nested part of the stripped form is that of the form, stripped. -/
theorem NestedStripped.nestedPart (h : NestedStripped names form stripped) :
    Stripped names form.nestedPart stripped.nestedPart := by
  refine ⟨fun name hname => ?_, ?_⟩
  · rw [get?_nestedPart, get?_nestedPart, if_neg hname, if_neg hname, ite_self]
  · rw [nested?_nestedPart, nested?_nestedPart]
    exact h.nested

end Form

open Form

/-- The own fields of a form and its nested fields, option by option.  As long as the nested fields shadow no option,
the outcome is that of the form whose nested fields lack all names of the options that it holds itself.  An option is
chosen in the same way with and without those names exactly if it is not shadowed, and an own field for a shadowed
option has no effect. -/
theorem own_fields_win_unless_shadowed (form : Form) (table : form.nested?.isSome) :
    NestedStripped (setNames form.ownPairs) form (form.stripNested (setNames form.ownPairs)) ∧
    (∀ stripped, NestedStripped (setNames form.ownPairs) form stripped →
      ((∀ option, ¬ Shadowed form.nestedPart form.ownPairs option) →
        form.parse.outcome = stripped.parse.outcome) ∧
      ∃ fields left, form.expand = .ok fields ∧ stripped.expand = .ok left ∧
        ∀ option, effective? fields option = effective? left option ↔
          ¬ Shadowed form.nestedPart form.ownPairs option) ∧
    ∀ option, Shadowed form.nestedPart form.ownPairs option →
      form.parse.outcome = (form.without option.names).parse.outcome := by
  have hform := get?_insertAll_ownPairs fun name (_ : name ≠ nestedName) => (rfl : form.get? name = form.get? name)
  refine ⟨nestedStripped_stripNested _ table, fun stripped hstripped => ?_, fun option hshadow => ?_⟩
  · have hother := get?_insertAll_ownPairs hstripped.own
    refine ⟨fun hshadow => ?_, ?_⟩
    · calc form.parse.outcome
          = (form.nestedPart.insertAll form.ownPairs).parse.outcome := (outcome_congr_get? hform).symm
        _ = (stripped.nestedPart.insertAll form.ownPairs).parse.outcome :=
            outcome_insertAll_of_not_shadowed hstripped.nestedPart hshadow
        _ = stripped.parse.outcome := outcome_congr_get? hother
    obtain ⟨texts, left, -, hleft, -⟩ := hstripped.nested
    obtain ⟨fields, others, hfields, hothers, hiff⟩ :=
      exists_effective?_iff table (show stripped.nested?.isSome by rw [hleft]; rfl)
    refine ⟨fields, others, hfields, hothers, fun option => ?_⟩
    rw [hiff, ← chosen_congr_get? hform, ← chosen_congr_get? hother,
      chosen_insertAll_eq_iff hstripped.nestedPart form.nestedName_not_mem_ownPairs]
  · calc form.parse.outcome
        = (form.nestedPart.insertAll form.ownPairs).parse.outcome := (outcome_congr_get? hform).symm
      _ = (form.nestedPart.insertAll (unset option form.ownPairs)).parse.outcome := hshadow.outcome_insertAll
      _ = (form.without option.names).parse.outcome :=
          outcome_congr_get? (form.get?_insertAll_unset_ownPairs option)

/-- A form that holds the switch itself under its second name, against a nested field under the first. -/
theorem nested_categoricalData_shadows :
    Shadowed (ofPairs [("categoricalFeature", "false"), ("options", "\x7b\"categoricalData\": true\x7d")]).nestedPart
      (ofPairs [("categoricalFeature", "false"), ("options", "\x7b\"categoricalData\": true\x7d")]).ownPairs
      (.flag .categoricalFeature) ∧
    (ofPairs [("categoricalFeature", "false"), ("options", "\x7b\"categoricalData\": true\x7d")]).parse.outcome =
      ((ofPairs [("categoricalFeature", "false"), ("options", "\x7b\"categoricalData\": true\x7d")]).without
        ["categoricalData", "categoricalFeature"]).parse.outcome := by
  have hshadow : Shadowed
      (ofPairs [("categoricalFeature", "false"), ("options", "\x7b\"categoricalData\": true\x7d")]).nestedPart
      (ofPairs [("categoricalFeature", "false"), ("options", "\x7b\"categoricalData\": true\x7d")]).ownPairs
      (.flag .categoricalFeature) :=
    ⟨[], "categoricalData", ["categoricalFeature"], rfl, by decide +kernel, by decide, by decide⟩
  exact ⟨hshadow, (own_fields_win_unless_shadowed _ (by decide +kernel)).2.2 (.flag .categoricalFeature) hshadow⟩

/-- The own fields of a form do not always win over the nested ones. -/
theorem not_own_fields_win :
    ¬ ∀ form : Form, form.nested?.isSome →
      form.parse.outcome = (form.stripNested (setNames form.ownPairs)).parse.outcome := by
  intro h
  have hflag := congrArg (fun outcome => outcome.toOption.map Options.categoricalFeature)
    (h (ofPairs [("categoricalFeature", "false"), ("options", "\x7b\"categoricalData\": true\x7d")])
      (by decide +kernel))
  revert hflag
  decide +kernel

end TableScript
