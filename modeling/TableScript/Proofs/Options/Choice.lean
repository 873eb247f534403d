import Mathlib.Data.List.Basic
import TableScript.Options.Form
import TableScript.Proofs.Dict
import TableScript.Proofs.Outcome

/-!
# What a form says

A form holds texts under names, in its own fields or in those nested under `options`.  What counts of them is the
name and the text by which each option is chosen (`Form.chosen`): options and faults depend on nothing else, unless
the nested fields are no object of scalars (`outcome_congr`, `outcome_of_nested?_eq_none`).
-/

namespace TableScript

namespace FormOption

theorem mem_all (option : FormOption) : option ∈ all := by
  cases option with
  | flag flag => cases flag <;> decide
  | randomState family => cases family <;> decide
  | _ => decide

/-- No two options share a name. -/
theorem eq_of_mem_names {name : String} {first second : FormOption} (h : name ∈ first.names)
    (h' : name ∈ second.names) : first = second := by
  have hall : ∀ first ∈ all, ∀ second ∈ all, ∀ name ∈ first.names, name ∈ second.names → first = second := by
    decide
  exact hall first first.mem_all second second.mem_all name h h'

/-- The name of the field for nested fields is no name of an option. -/
theorem nestedName_not_mem_names (option : FormOption) : Form.nestedName ∉ option.names := by
  have hall : ∀ option ∈ all, Form.nestedName ∉ option.names := by decide
  exact hall option option.mem_all

end FormOption

namespace Form

/-- The texts of the members of an object, if they are scalars. -/
def memberTexts? : List (String × Json) → Option (List (String × String))
  | [] => some []
  | (name, value) :: members =>
    (scalarText value).bind fun text => (memberTexts? members).map ((name, text) :: ·)

/-- The nested fields of a form: there are none without a field for them, and it has to hold an object of
scalars. -/
def nested? (form : Form) : Option (List (String × String)) :=
  match form.get? nestedName with
  | none => some []
  | some text => match Json.read text with
    | .ok (.object members) => memberTexts? members
    | _ => none

/-- The text that a form holds under a name, in a field of its own or else in a nested one. -/
def text? (form : Form) (name : String) : Option String :=
  (form.get? name).or (form.nested?.bind (Dict.get? name))

/-- The name and the text by which a form chooses an option. -/
def chosen (form : Form) (option : FormOption) : Option (String × String) :=
  option.names.findSome? fun name => (form.text? name).map (name, ·)

/-! ## Nested fields -/

theorem nested?_congr {form other : Form} (h : form.get? nestedName = other.get? nestedName) :
    form.nested? = other.nested? := by
  unfold nested?
  rw [h]

/-- Nested fields count where there is no field of their name. -/
theorem addNested_of_memberTexts? {members : List (String × Json)} {texts : List (String × String)}
    (h : memberTexts? members = some texts) (fields : List (String × String)) :
    ∃ all, addNested members fields = .ok all ∧
      ∀ name, Dict.get? name all = (Dict.get? name fields).or (Dict.get? name texts) := by
  induction members generalizing texts fields with
  | nil =>
    obtain rfl : texts = [] := by simpa [memberTexts?] using h.symm
    exact ⟨fields, rfl, by simp [Dict.get?]⟩
  | cons member members ih =>
    obtain ⟨key, value⟩ := member
    rw [memberTexts?, Option.bind_eq_some_iff] at h
    obtain ⟨text, htext, h⟩ := h
    rw [Option.map_eq_some_iff] at h
    obtain ⟨texts, hmembers, rfl⟩ := h
    obtain ⟨all, hall, hget⟩ :=
      ih hmembers (if (Dict.get? key fields).isSome then fields else Dict.insert key text fields)
    refine ⟨all, ?_, fun name => ?_⟩
    · simpa only [addNested, htext] using hall
    rw [hget name]
    split_ifs with hkey
    · -- a field of the form hides the member
      obtain ⟨held, hheld⟩ := Option.isSome_iff_exists.mp hkey
      by_cases hname : key = name
      · subst hname
        simp [hheld]
      · simp [Dict.get?, hname]
    · -- the member becomes a field, and hides later members with its name
      rw [Option.not_isSome_iff_eq_none] at hkey
      by_cases hname : key = name
      · subst hname
        simp [Dict.get?_insert, Dict.get?, hkey]
      · simp [Dict.get?_insert, Dict.get?, hname]

/-- A member that is no scalar is refused whatever fields there are. -/
theorem addNested_of_memberTexts?_eq_none {members : List (String × Json)} (h : memberTexts? members = none) :
    ∃ fault, ∀ fields, addNested members fields = .error fault := by
  induction members with
  | nil => simp [memberTexts?] at h
  | cons member members ih =>
    obtain ⟨key, value⟩ := member
    rw [memberTexts?] at h
    cases htext : scalarText value with
    | none => exact ⟨_, fun fields => by simp only [addNested, htext]; rfl⟩
    | some text =>
      simp only [htext, Option.bind_some, Option.map_eq_none_iff] at h
      obtain ⟨fault, hfault⟩ := ih h
      exact ⟨fault, fun fields => by simp only [addNested, htext, hfault]⟩

/-! ## Fields that count -/

/-- A form whose nested fields are an object of scalars has the texts of `text?` as its fields. -/
theorem exists_expand_eq_ok {form : Form} (h : form.nested?.isSome) :
    ∃ fields, form.expand = .ok fields ∧ ∀ name ≠ nestedName, Dict.get? name fields = form.text? name := by
  obtain ⟨nested, hnested⟩ := Option.isSome_iff_exists.mp h
  have htext (name : String) : form.text? name = (form.get? name).or (Dict.get? name nested) := by
    simp [text?, hnested]
  unfold nested? at hnested
  cases hheld : form.get? nestedName with
  | none =>
    obtain rfl : nested = [] := by simpa [hheld] using hnested.symm
    exact ⟨form.fields, by simp [expand, hheld], fun name _ => by simp [htext, get?, Dict.get?]⟩
  | some text =>
    rw [hheld] at hnested
    cases hread : Json.read text with
    | error fault => simp [hread] at hnested
    | ok value =>
      cases value with
      | object members =>
        simp only [hread] at hnested
        obtain ⟨fields, hfields, hget⟩ := addNested_of_memberTexts? hnested (Dict.erase nestedName form.fields)
        refine ⟨fields, by simp [expand, hheld, hread, hfields], fun name hname => ?_⟩
        rw [hget, Dict.get?_erase, if_neg hname, htext, get?]
      | _ => simp [hread] at hnested

/-- Whether nested fields are refused depends on their text alone. -/
theorem exists_expand_eq_error {form : Form} (h : form.nested? = none) :
    ∃ fault, ∀ other : Form, other.get? nestedName = form.get? nestedName → other.expand = .error fault := by
  unfold nested? at h
  cases hheld : form.get? nestedName with
  | none => simp [hheld] at h
  | some text =>
    rw [hheld] at h
    cases hread : Json.read text with
    | error fault => exact ⟨_, fun other hother => by rw [expand, hother]; simp only [hread]; rfl⟩
    | ok value =>
      cases value with
      | object members =>
        simp only [hread] at h
        obtain ⟨fault, hfault⟩ := addNested_of_memberTexts?_eq_none h
        exact ⟨fault, fun other hother => by rw [expand, hother]; simp only [hread, hfault]⟩
      | _ => exact ⟨_, fun other hother => by rw [expand, hother]; simp only [hread]; rfl⟩

private theorem findSome?_congr {α β : Type} {f g : α → Option β} {l : List α} (h : ∀ a ∈ l, f a = g a) :
    l.findSome? f = l.findSome? g := by
  induction l with
  | nil => rfl
  | cons a l ih =>
    rw [List.forall_mem_cons] at h
    simp only [List.findSome?_cons, h.1, ih h.2]

theorem effective?_eq_chosen {form : Form} {fields : List (String × String)}
    (h : ∀ name ≠ nestedName, Dict.get? name fields = form.text? name) (option : FormOption) :
    effective? fields option = form.chosen option := by
  refine findSome?_congr fun name hname => ?_
  rw [h name fun heq => option.nestedName_not_mem_names (heq ▸ hname)]

theorem decode_congr {fields others : List (String × String)}
    (h : ∀ option, effective? fields option = effective? others option) : decode fields = decode others := by
  simp only [decode, readFlags, readInto, h]

theorem outcome_parse (form : Form) : form.parse.outcome = form.expand >>= decode := by
  unfold parse
  simp only [Traced.outcome_bind, Traced.outcome_ofExcept]
  cases form.expand with
  | error fault => rfl
  | ok fields =>
    simp only [ok_bind]
    cases decode fields <;> rfl

/-- Options depend on nothing but what a form chooses each option by. -/
theorem outcome_congr {form other : Form} (hform : form.nested?.isSome) (hother : other.nested?.isSome)
    (h : ∀ option, form.chosen option = other.chosen option) : form.parse.outcome = other.parse.outcome := by
  obtain ⟨fields, hfields, hget⟩ := exists_expand_eq_ok hform
  obtain ⟨others, hothers, hget'⟩ := exists_expand_eq_ok hother
  rw [outcome_parse, outcome_parse, hfields, hothers]
  exact decode_congr fun option => by rw [effective?_eq_chosen hget, effective?_eq_chosen hget', h]

/-- How two forms choose an option shows in the fields that count. -/
theorem exists_effective?_iff {form other : Form} (hform : form.nested?.isSome) (hother : other.nested?.isSome) :
    ∃ fields others, form.expand = .ok fields ∧ other.expand = .ok others ∧
      ∀ option, effective? fields option = effective? others option ↔ form.chosen option = other.chosen option := by
  obtain ⟨fields, hfields, hget⟩ := exists_expand_eq_ok hform
  obtain ⟨others, hothers, hget'⟩ := exists_expand_eq_ok hother
  refine ⟨fields, others, hfields, hothers, fun option => ?_⟩
  rw [effective?_eq_chosen hget, effective?_eq_chosen hget']

/-- Nested fields that are no object of scalars decide the outcome. -/
theorem outcome_of_nested?_eq_none {form other : Form} (hform : form.nested? = none)
    (h : other.get? nestedName = form.get? nestedName) : other.parse.outcome = form.parse.outcome := by
  obtain ⟨fault, hfault⟩ := exists_expand_eq_error hform
  rw [outcome_parse, outcome_parse, hfault other h, hfault form rfl]

/-! ## Names in order -/

theorem chosen_congr {form other : Form} {option : FormOption}
    (h : ∀ name ∈ option.names, form.text? name = other.text? name) :
    form.chosen option = other.chosen option :=
  findSome?_congr fun name hname => by rw [h name hname]

theorem chosen_congr_get? {form other : Form} (h : ∀ name, form.get? name = other.get? name) (option : FormOption) :
    form.chosen option = other.chosen option :=
  chosen_congr fun name _ => by rw [text?, text?, h name, nested?_congr (h nestedName)]

/-- Options depend on nothing but the fields of a form. -/
theorem outcome_congr_get? {form other : Form} (h : ∀ name, form.get? name = other.get? name) :
    form.parse.outcome = other.parse.outcome := by
  cases htable : other.nested? with
  | none => exact outcome_of_nested?_eq_none htable (h nestedName)
  | some texts =>
    have hform : form.nested? = some texts := (nested?_congr (h nestedName)).trans htable
    exact outcome_congr (by rw [hform]; rfl) (by rw [htable]; rfl) (chosen_congr_get? h)

/-- Names behind one that is present do not count. -/
theorem chosen_congr_upTo {form other : Form} {option : FormOption} {before after : List String} {name : String}
    (hnames : option.names = before ++ name :: after) (hname : (form.text? name).isSome)
    (h : ∀ n ∈ before ++ [name], form.text? n = other.text? n) : form.chosen option = other.chosen option := by
  obtain ⟨text, htext⟩ := Option.isSome_iff_exists.mp hname
  have hother : other.text? name = some text := by rw [← h name (by simp), htext]
  have hbefore : before.findSome? (fun n => (form.text? n).map (n, ·)) =
      before.findSome? fun n => (other.text? n).map (n, ·) :=
    findSome?_congr fun n hn => by rw [h n (List.mem_append_left _ hn)]
  simp only [chosen, hnames, List.findSome?_append, List.findSome?_cons, htext, hother, hbefore, Option.map_some]

/-- An option is chosen by one of the names up to the first that is known to be present. -/
theorem exists_chosen_upTo {form : Form} {option : FormOption} {before after : List String} {name : String}
    (hnames : option.names = before ++ name :: after) (hname : (form.text? name).isSome) :
    ∃ n ∈ before ++ [name], ∃ text, form.chosen option = some (n, text) := by
  obtain ⟨text, htext⟩ := Option.isSome_iff_exists.mp hname
  simp only [chosen, hnames, List.findSome?_append, List.findSome?_cons, htext, Option.map_some]
  cases hbefore : before.findSome? fun n => (form.text? n).map (n, ·) with
  | none => exact ⟨name, by simp, text, rfl⟩
  | some choice =>
    obtain ⟨n, hn, hchoice⟩ := List.exists_of_findSome?_eq_some hbefore
    obtain ⟨held, -, rfl⟩ := Option.map_eq_some_iff.mp hchoice
    exact ⟨n, List.mem_append_left _ hn, held, rfl⟩

theorem text?_of_chosen {form : Form} {option : FormOption} {name text : String}
    (h : form.chosen option = some (name, text)) : name ∈ option.names ∧ form.text? name = some text := by
  obtain ⟨n, hn, hchoice⟩ := List.exists_of_findSome?_eq_some h
  obtain ⟨held, hheld, heq⟩ := Option.map_eq_some_iff.mp hchoice
  obtain ⟨rfl, rfl⟩ := Prod.mk.inj heq
  exact ⟨hn, hheld⟩

end Form

end TableScript
