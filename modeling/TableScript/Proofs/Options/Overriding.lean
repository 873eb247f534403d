import TableScript.Execution
import TableScript.Proofs.Json.ReadBack
import TableScript.Proofs.Options.Choice

/-!
# Settings over option files

A command inserts its settings into the form of its option file name by name, while an option is read under the
first of its names that is present.  Settings override the file as long as it does not hold an option under a name
that counts before those of the settings; where it does, it shadows them (`Form.Shadowed`).
-/

namespace TableScript

namespace Form

variable {form stripped : Form} {pairs : List (String × String)} {names : List String} {option : FormOption}

/-! ## Stripped forms -/

/-- A form without some names, among its own fields and among the nested ones. -/
structure Stripped (names : List String) (form stripped : Form) : Prop where
  flat : ∀ name ≠ nestedName, stripped.get? name = if name ∈ names then none else form.get? name
  nested : ∃ texts left, form.nested? = some texts ∧ stripped.nested? = some left ∧
    ∀ name, Dict.get? name left = if name ∈ names then none else Dict.get? name texts

/-- Drops some names from a form, whose nested fields it writes anew with the values as texts.  Of nested fields with
the same name the first counts, so that they are written from the last on. -/
def strip (names : List String) (form : Form) : Form :=
  let flat : Form := ⟨form.fields.filter fun field => field.1 ∉ names⟩
  match form.get? nestedName, form.nested? with
  | some _, some texts =>
    let left := (texts.filter fun field => field.1 ∉ names).reverse
    flat.insert nestedName (Json.object (left.map fun field => (field.1, .string field.2))).compact
  | _, _ => flat

theorem Stripped.text? (h : Stripped names form stripped) {name : String} (hname : name ≠ nestedName) :
    stripped.text? name = if name ∈ names then none else form.text? name := by
  obtain ⟨texts, left, htexts, hleft, hget⟩ := h.nested
  simp only [Form.text?, h.flat name hname, htexts, hleft, Option.bind_some, hget]
  split_ifs <;> rfl

private theorem memberTexts?_strings (texts : List (String × String)) :
    memberTexts? (texts.map fun field => (field.1, .string field.2)) = some texts := by
  induction texts with
  | nil => rfl
  | cons field texts ih => simp [memberTexts?, scalarText, ih]

/-- Fields written as an object of strings are read back from it. -/
private theorem nested?_strings {form : Form} {fields : List (String × String)}
    (h : form.get? nestedName =
      some (Json.object (fields.map fun field => (field.1, .string field.2))).compact) :
    form.nested? = some (Dict.ofList fields) := by
  have hread : Json.read (Json.object (fields.map fun field => (field.1, .string field.2))).compact =
      .ok (.object (Dict.ofList (fields.map fun field => (field.1, .string field.2)))) := by
    refine Json.read_compact_object fun bound nested member hmember => ?_
    obtain ⟨field, -, rfl⟩ := List.mem_map.mp hmember
    exact Json.readsBack_string bound nested field.2
  simp only [nested?, h, hread, Dict.ofList_map, memberTexts?_strings]

/-- What a form holds in its own fields when some names are dropped. -/
theorem get?_flat (names : List String) (form : Form) (name : String) :
    Dict.get? name (form.fields.filter fun field => field.1 ∉ names) = if name ∈ names then none else form.get? name := by
  rw [Dict.get?_filter name (fun n => decide (n ∉ names)), get?]
  by_cases hname : name ∈ names <;> simp [hname]

/-- Every form whose nested fields are an object of scalars can be stripped. -/
theorem stripped_strip (names : List String) (h : form.nested?.isSome) :
    Stripped names form (form.strip names) := by
  obtain ⟨texts, htexts⟩ := Option.isSome_iff_exists.mp h
  cases hheld : form.get? nestedName with
  | none =>
    have hstrip : form.strip names = ⟨form.fields.filter fun field => field.1 ∉ names⟩ := by
      simp [strip, hheld]
    have hnone : (form.strip names).get? nestedName = none := by
      rw [hstrip, get?, get?_flat, hheld, ite_self]
    refine ⟨fun name _ => by rw [hstrip]; exact get?_flat names form name, [], [], ?_, ?_, by simp [Dict.get?]⟩
    · simp [nested?, hheld]
    · simp [nested?, hnone]
  | some text =>
    have hstrip : form.strip names = Form.insert ⟨form.fields.filter fun field => field.1 ∉ names⟩ nestedName
        (Json.object ((texts.filter fun field => field.1 ∉ names).reverse.map fun field =>
          (field.1, .string field.2))).compact := by simp [strip, hheld, htexts]
    have hget (name : String) (hname : name ≠ nestedName) :
        (form.strip names).get? name = if name ∈ names then none else form.get? name := by
      rw [hstrip, get?, Form.insert, Dict.get?_insert, if_neg (Ne.symm hname), get?_flat]
    have hleft : (form.strip names).nested? =
        some (Dict.ofList (texts.filter fun field => field.1 ∉ names).reverse) :=
      nested?_strings (by rw [hstrip, get?, Form.insert, Dict.get?_insert, if_pos rfl])
    refine ⟨hget, texts, _, htexts, hleft, fun name => ?_⟩
    rw [Dict.ofList, Dict.get?_insertAll, List.reverse_reverse, Dict.get?_filter name (fun n => decide (n ∉ names))]
    by_cases hname : name ∈ names <;> simp [hname, Dict.get?]

/-! ## Settings -/

/-- Pairs set an option, under any of its names. -/
def Sets (pairs : List (String × String)) (option : FormOption) : Prop :=
  ∃ name ∈ option.names, name ∈ pairs.map Prod.fst

instance (pairs : List (String × String)) (option : FormOption) : Decidable (Sets pairs option) :=
  inferInstanceAs (Decidable (∃ name ∈ option.names, name ∈ pairs.map Prod.fst))

/-- All names of the options that pairs set. -/
def setNames (pairs : List (String × String)) : List String :=
  (FormOption.all.filter fun option => Sets pairs option).flatMap FormOption.names

/-- The pairs that do not set an option. -/
def unset (option : FormOption) (pairs : List (String × String)) : List (String × String) :=
  pairs.filter fun pair => pair.1 ∉ option.names

/-- The text that is left of a form under a name when pairs are inserted under others: nested fields among the pairs
replace those of the form. -/
def left? (form : Form) (pairs : List (String × String)) (name : String) : Option String :=
  if nestedName ∈ pairs.map Prod.fst then form.get? name else form.text? name

/-- A form shadows an option that pairs set: it holds it under a name that counts before each of those under which
the pairs do. -/
def Shadowed (form : Form) (pairs : List (String × String)) (option : FormOption) : Prop :=
  ∃ before name after, option.names = before ++ name :: after ∧ (form.left? pairs name).isSome ∧
    (∀ n ∈ before ++ [name], n ∉ pairs.map Prod.fst) ∧ ∃ n ∈ after, n ∈ pairs.map Prod.fst

theorem mem_setNames_iff {name : String} (hname : name ∈ option.names) :
    name ∈ setNames pairs ↔ Sets pairs option := by
  simp only [setNames, List.mem_flatMap, List.mem_filter, decide_eq_true_eq]
  constructor
  · rintro ⟨found, ⟨-, hsets⟩, hfound⟩
    rwa [FormOption.eq_of_mem_names hname hfound]
  · exact fun hsets => ⟨option, ⟨option.mem_all, hsets⟩, hname⟩

theorem Shadowed.sets (h : Shadowed form pairs option) : Sets pairs option := by
  obtain ⟨before, name, after, hnames, -, -, n, hn, hset⟩ := h
  exact ⟨n, by rw [hnames]; simp [hn], hset⟩

/-! ## A form with settings inserted -/

theorem get?_insertAll (form : Form) (pairs : List (String × String)) (name : String) :
    (form.insertAll pairs).get? name = (Dict.get? name pairs.reverse).or (form.get? name) :=
  Dict.get?_insertAll name pairs form.fields

private theorem get?_reverse_eq_none {name : String} (h : name ∉ pairs.map Prod.fst) :
    Dict.get? name pairs.reverse = none := by
  rw [Dict.get?_eq_none_iff, List.map_reverse, List.mem_reverse]
  exact h

private theorem isSome_get?_reverse {name : String} (h : name ∈ pairs.map Prod.fst) :
    (Dict.get? name pairs.reverse).isSome := by
  rw [Dict.isSome_get?_iff, List.map_reverse, List.mem_reverse]
  exact h

theorem nested?_insertAll_of_not_mem (h : nestedName ∉ pairs.map Prod.fst) :
    (form.insertAll pairs).nested? = form.nested? := by
  apply nested?_congr
  rw [get?_insertAll, get?_reverse_eq_none h, Option.none_or]

/-- Nested fields among the pairs replace those of a form. -/
theorem get?_nestedName_insertAll_of_mem (h : nestedName ∈ pairs.map Prod.fst) (form other : Form) :
    (form.insertAll pairs).get? nestedName = (other.insertAll pairs).get? nestedName := by
  rw [get?_insertAll, get?_insertAll, Option.or_of_isSome (isSome_get?_reverse h),
    Option.or_of_isSome (isSome_get?_reverse h)]

theorem text?_insertAll_of_mem {name : String} (h : name ∈ pairs.map Prod.fst) (form : Form) :
    (form.insertAll pairs).text? name = Dict.get? name pairs.reverse := by
  rw [text?, get?_insertAll, Option.or_assoc, Option.or_of_isSome (isSome_get?_reverse h)]

/-- Under a name that the pairs do not have stands what is left of the form, or else a nested field of the
pairs. -/
theorem text?_insertAll_of_not_mem {name : String} (h : name ∉ pairs.map Prod.fst) (form : Form) :
    (form.insertAll pairs).text? name =
      (form.left? pairs name).or ((ofPairs pairs).nested?.bind (Dict.get? name)) := by
  rw [text?, get?_insertAll, get?_reverse_eq_none h, Option.none_or, left?]
  split_ifs with hnested
  · rw [nested?_congr (get?_nestedName_insertAll_of_mem hnested form {})]
    rfl
  · rw [nested?_insertAll_of_not_mem hnested, ofPairs, nested?_insertAll_of_not_mem hnested]
    simp [text?, nested?, get?, Dict.get?]

theorem Stripped.left? (h : Stripped names form stripped) {name : String} (hname : name ≠ nestedName) :
    stripped.left? pairs name = if name ∈ names then none else form.left? pairs name := by
  unfold Form.left?
  split_ifs <;> simp_all [h.flat name hname, h.text? hname]

/-! ## Settings that are not shadowed -/

/-- The settings split the names of an option that they set at the first one under which they hold it. -/
private theorem Sets.exists_first (h : Sets pairs option) :
    ∃ before name after, option.names = before ++ name :: after ∧ name ∈ pairs.map Prod.fst ∧
      ∀ n ∈ before, n ∉ pairs.map Prod.fst := by
  cases hfind : option.names.find? (fun n => decide (n ∈ pairs.map Prod.fst)) with
  | none =>
    obtain ⟨name, hname, hset⟩ := h
    rw [List.find?_eq_none] at hfind
    exact absurd (decide_eq_true hset) (hfind name hname)
  | some name =>
    rw [List.find?_eq_some_iff_append] at hfind
    obtain ⟨hname, before, after, hnames, hbefore⟩ := hfind
    exact ⟨before, name, after, hnames, of_decide_eq_true hname, fun n hn => by simpa using hbefore n hn⟩

/-- Of an option that is not shadowed, a form holds no name before the first one among the settings. -/
private theorem left?_eq_none_of_not_shadowed (h : ¬ Shadowed form pairs option) {before after : List String}
    {name : String} (hnames : option.names = before ++ name :: after) (hname : name ∈ pairs.map Prod.fst)
    (hbefore : ∀ n ∈ before, n ∉ pairs.map Prod.fst) : ∀ n ∈ before, form.left? pairs n = none := by
  intro n hn
  rw [← Option.not_isSome_iff_eq_none]
  intro hleft
  obtain ⟨first, second, rfl⟩ := List.append_of_mem hn
  refine h ⟨first, n, second ++ name :: after, by simp [hnames], hleft, fun m hm => hbefore m ?_, name, by simp, hname⟩
  rcases List.mem_append.mp hm with hm | hm
  · exact List.mem_append_left _ hm
  · simp [List.mem_singleton.mp hm]

/-- Unless it is shadowed, an option is chosen as if its names were not in the form. -/
theorem chosen_insertAll_of_not_shadowed (h : Stripped (setNames pairs) form stripped)
    (hshadow : ¬ Shadowed form pairs option) :
    (form.insertAll pairs).chosen option = (stripped.insertAll pairs).chosen option := by
  have hne : ∀ n ∈ option.names, n ≠ nestedName := fun n hn heq => option.nestedName_not_mem_names (heq ▸ hn)
  by_cases hsets : Sets pairs option
  · -- the names up to the first one among the settings decide
    obtain ⟨before, name, after, hnames, hname, hbefore⟩ := hsets.exists_first
    have hform := left?_eq_none_of_not_shadowed hshadow hnames hname hbefore
    refine chosen_congr_upTo hnames ?_ fun n hn => ?_
    · rw [text?_insertAll_of_mem hname]
      exact isSome_get?_reverse hname
    rcases List.mem_append.mp hn with hn | hn
    · have hmem : n ∈ option.names := by rw [hnames]; exact List.mem_append_left _ hn
      rw [text?_insertAll_of_not_mem (hbefore n hn), text?_insertAll_of_not_mem (hbefore n hn), hform n hn,
        h.left? (hne n hmem), if_pos ((mem_setNames_iff hmem).mpr hsets)]
    · obtain rfl := List.mem_singleton.mp hn
      rw [text?_insertAll_of_mem hname, text?_insertAll_of_mem hname]
  · -- neither the settings nor what was dropped has a name of the option
    refine chosen_congr fun n hn => ?_
    have hset : n ∉ pairs.map Prod.fst := fun hmem => hsets ⟨n, hn, hmem⟩
    rw [text?_insertAll_of_not_mem hset, text?_insertAll_of_not_mem hset, h.left? (hne n hn),
      if_neg (mt (mem_setNames_iff hn).mp hsets)]

/-- Where nothing is shadowed, the outcome is that of the stripped form. -/
theorem outcome_insertAll_of_not_shadowed (h : Stripped (setNames pairs) form stripped)
    (hshadow : ∀ option, ¬ Shadowed form pairs option) :
    (form.insertAll pairs).parse.outcome = (stripped.insertAll pairs).parse.outcome := by
  have hchosen (option : FormOption) := chosen_insertAll_of_not_shadowed h (hshadow option)
  by_cases hmem : nestedName ∈ pairs.map Prod.fst
  · have hnested := get?_nestedName_insertAll_of_mem hmem form stripped
    cases htable : (stripped.insertAll pairs).nested? with
    | none => exact outcome_of_nested?_eq_none htable hnested
    | some texts =>
      exact outcome_congr (by rw [nested?_congr hnested, htable]; rfl) (by rw [htable]; rfl) hchosen
  · obtain ⟨texts, left, htexts, hleft, -⟩ := h.nested
    refine outcome_congr ?_ ?_ hchosen
    · rw [nested?_insertAll_of_not_mem hmem, htexts]; rfl
    · rw [nested?_insertAll_of_not_mem hmem, hleft]; rfl

/-! ## Settings that are shadowed -/

/-- A shadowed option is chosen by a name that the settings do not have. -/
theorem Shadowed.exists_chosen (h : Shadowed form pairs option) :
    ∃ name text, (form.insertAll pairs).chosen option = some (name, text) ∧ name ∉ pairs.map Prod.fst := by
  obtain ⟨before, name, after, hnames, hleft, hbefore, -⟩ := h
  have hname : ((form.insertAll pairs).text? name).isSome := by
    rw [text?_insertAll_of_not_mem (hbefore name (by simp)), Option.or_of_isSome hleft]
    exact hleft
  obtain ⟨n, hn, text, hchosen⟩ := exists_chosen_upTo hnames hname
  exact ⟨n, text, hchosen, hbefore n hn⟩

/-- Without its names in the form, an option that settings without nested fields set is chosen by one of theirs. -/
theorem mem_of_chosen_stripped (h : Stripped (setNames pairs) form stripped)
    (hnested : nestedName ∉ pairs.map Prod.fst) (hsets : Sets pairs option) {name text : String}
    (hchosen : (stripped.insertAll pairs).chosen option = some (name, text)) : name ∈ pairs.map Prod.fst := by
  obtain ⟨hname, htext⟩ := text?_of_chosen hchosen
  by_contra hmem
  have hne : name ≠ nestedName := fun heq => option.nestedName_not_mem_names (heq ▸ hname)
  rw [text?, get?_insertAll, get?_reverse_eq_none hmem, Option.none_or, nested?_insertAll_of_not_mem hnested] at htext
  have hstripped : stripped.text? name = none := by
    rw [h.text? hne, if_pos ((mem_setNames_iff hname).mpr hsets)]
  exact absurd (hstripped.symm.trans htext) (by simp)

/-- With and without its names in the form, an option is chosen in the same way exactly if it is not shadowed. -/
theorem chosen_insertAll_eq_iff (h : Stripped (setNames pairs) form stripped)
    (hnested : nestedName ∉ pairs.map Prod.fst) :
    (form.insertAll pairs).chosen option = (stripped.insertAll pairs).chosen option ↔
      ¬ Shadowed form pairs option := by
  refine ⟨fun hchosen hshadow => ?_, chosen_insertAll_of_not_shadowed h⟩
  obtain ⟨name, text, hname, hmem⟩ := hshadow.exists_chosen
  exact hmem (mem_of_chosen_stripped h hnested hshadow.sets (hchosen.symm.trans hname))

private theorem get?_insertAll_unset (form : Form) (pairs : List (String × String)) {name : String}
    (h : name ∉ option.names) : (form.insertAll (unset option pairs)).get? name = (form.insertAll pairs).get? name := by
  rw [get?_insertAll, get?_insertAll, unset, ← List.filter_reverse,
    Dict.get?_filter name (fun n => decide (n ∉ option.names)), if_pos (decide_eq_true h)]

/-- A setting for a shadowed option does not count. -/
theorem Shadowed.outcome_insertAll (h : Shadowed form pairs option) :
    (form.insertAll pairs).parse.outcome = (form.insertAll (unset option pairs)).parse.outcome := by
  have hnested := get?_insertAll_unset form pairs option.nestedName_not_mem_names
  cases htable : (form.insertAll pairs).nested? with
  | none => exact (outcome_of_nested?_eq_none htable hnested).symm
  | some texts =>
    have hfewer : (form.insertAll (unset option pairs)).nested? = some texts := (nested?_congr hnested).trans htable
    have htext {n : String} (hget : (form.insertAll pairs).get? n = (form.insertAll (unset option pairs)).get? n) :
        (form.insertAll pairs).text? n = (form.insertAll (unset option pairs)).text? n := by
      rw [text?, text?, hget, htable, hfewer]
    refine outcome_congr (by rw [htable]; rfl) (by rw [hfewer]; rfl) fun found => ?_
    by_cases hfound : found = option
    · -- the names up to the one that shadows are in neither list of pairs
      subst hfound
      obtain ⟨before, name, after, hnames, hleft, hbefore, -⟩ := h
      refine chosen_congr_upTo hnames ?_ fun n hn => htext ?_
      · rw [text?_insertAll_of_not_mem (hbefore name (by simp)), Option.or_of_isSome hleft]
        exact hleft
      have hunset : n ∉ (unset found pairs).map Prod.fst :=
        fun hmem => hbefore n hn ((List.filter_sublist.map Prod.fst).subset hmem)
      rw [get?_insertAll, get?_insertAll, get?_reverse_eq_none (hbefore n hn), get?_reverse_eq_none hunset]
    · exact chosen_congr fun n hn =>
        htext (get?_insertAll_unset form pairs fun hmem => hfound (FormOption.eq_of_mem_names hn hmem)).symm

/-! ## Settings of a command -/

theorem foldl_insert (form : Form) (pairs : List (String × String)) :
    pairs.foldl (fun form (key, value) => form.insert key value) form = form.insertAll pairs := by
  induction pairs generalizing form with
  | nil => rfl
  | cons pair pairs ih => exact ih (form.insert pair.1 pair.2)

end Form

open Form

/-- Settings and the form of an option file, option by option.  As long as the form shadows no option, the outcome is
that of the form without all names of the options set.  An option is chosen in the same way with and without those
names exactly if it is not shadowed, and a setting for a shadowed option has no effect. -/
theorem settings_override_unless_shadowed (form : Form) (pairs : List (String × String))
    (table : form.nested?.isSome) :
    (∀ files workspace path, OptionFile.load files (Path.join workspace path) = .ok form →
      Execution.form files workspace (some path) pairs = .ok (form.insertAll pairs)) ∧
    Stripped (setNames pairs) form (form.strip (setNames pairs)) ∧
    (∀ stripped, Stripped (setNames pairs) form stripped →
      ((∀ option, ¬ Shadowed form pairs option) →
        (form.insertAll pairs).parse.outcome = (stripped.insertAll pairs).parse.outcome) ∧
      (nestedName ∉ pairs.map Prod.fst → ∃ fields left, (form.insertAll pairs).expand = .ok fields ∧
        (stripped.insertAll pairs).expand = .ok left ∧
        ∀ option, effective? fields option = effective? left option ↔ ¬ Shadowed form pairs option)) ∧
    ∀ option, Shadowed form pairs option →
      (form.insertAll pairs).parse.outcome = (form.insertAll (unset option pairs)).parse.outcome := by
  refine ⟨fun files workspace path hload => ?_, stripped_strip _ table, fun stripped hstripped =>
    ⟨outcome_insertAll_of_not_shadowed hstripped, fun hnested => ?_⟩,
    fun option hshadow => hshadow.outcome_insertAll⟩
  · simp only [Execution.form, hload, foldl_insert, ok_bind]
    rfl
  obtain ⟨texts, left, -, hleft, -⟩ := hstripped.nested
  have htable : (form.insertAll pairs).nested?.isSome := by rwa [nested?_insertAll_of_not_mem hnested]
  have hstrippedTable : (stripped.insertAll pairs).nested?.isSome := by
    rw [nested?_insertAll_of_not_mem hnested, hleft]
    rfl
  obtain ⟨fields, hfields, hget⟩ := exists_expand_eq_ok htable
  obtain ⟨others, hothers, hgetOther⟩ := exists_expand_eq_ok hstrippedTable
  refine ⟨fields, others, hfields, hothers, fun option => ?_⟩
  rw [effective?_eq_chosen hget, effective?_eq_chosen hgetOther]
  exact chosen_insertAll_eq_iff hstripped hnested

/-- A file that holds the switch under its first name, against a setting under the second. -/
theorem categoricalFeature_shadowed :
    Shadowed (ofPairs [("categoricalData", "true"), ("options", "\x7b\"splitDataset\": true\x7d")])
      [("categoricalFeature", "false")] (.flag .categoricalFeature) ∧
    ((ofPairs [("categoricalData", "true"), ("options", "\x7b\"splitDataset\": true\x7d")]).insertAll
        [("categoricalFeature", "false")]).parse.outcome =
      ((ofPairs [("categoricalData", "true"), ("options", "\x7b\"splitDataset\": true\x7d")]).insertAll
        (unset (.flag .categoricalFeature) [("categoricalFeature", "false")])).parse.outcome := by
  have hshadow : Shadowed (ofPairs [("categoricalData", "true"), ("options", "\x7b\"splitDataset\": true\x7d")])
      [("categoricalFeature", "false")] (.flag .categoricalFeature) :=
    ⟨[], "categoricalData", ["categoricalFeature"], rfl, by decide, by decide, by decide⟩
  exact ⟨hshadow, (settings_override_unless_shadowed _ _ (by decide +kernel)).2.2.2 _ hshadow⟩

/-- Settings do not always override the file. -/
theorem not_settings_override :
    ¬ ∀ (form : Form) (pairs : List (String × String)), form.nested?.isSome →
      (form.insertAll pairs).parse.outcome = ((form.strip (setNames pairs)).insertAll pairs).parse.outcome := by
  intro h
  have hflag := congrArg (fun outcome => outcome.toOption.map Options.categoricalFeature)
    (h (ofPairs [("categoricalData", "true")]) [("categoricalFeature", "false")] (by decide))
  revert hflag
  decide

end TableScript
