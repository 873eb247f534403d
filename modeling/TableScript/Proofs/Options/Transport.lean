import TableScript.OptionFile
import TableScript.Proofs.Json.Scalars
import TableScript.Proofs.Options.Choice

/-!
# Three ways into a form

Truth values, integers and texts get into a form as members of a JSON file, as members of an object nested in one, or
as pairs of texts.  The nested object is written and read again on its way, and gets its texts only after that
(`expand_nestedForm`).  Under the same names they mean the same on all three ways (`parse_same_on_all_ways`).
-/

namespace TableScript

/-- A truth value, an integer of 64 bits with or without a sign, or a text. -/
inductive OptionValue where
  | bool (value : Bool)
  | integer (value : Int) (hmin : Int64.minValue.toInt ≤ value) (hmax : value < UInt64.size)
  | string (value : String)

namespace OptionValue

variable {fields : List (String × OptionValue)}

def toJson : OptionValue → Json
  | .bool value => .bool value
  | .integer value _ _ => .integer value
  | .string value => .string value

def text : OptionValue → String
  | .bool value => if value then "true" else "false"
  | .integer value _ _ => toString value
  | .string value => value

/-- Named values as members of a JSON object. -/
def members (fields : List (String × OptionValue)) : List (String × Json) :=
  fields.map fun field => (field.1, field.2.toJson)

/-- Named values as texts. -/
def texts (fields : List (String × OptionValue)) : List (String × String) :=
  fields.map fun field => (field.1, field.2.text)

/-- The JSON object of named values. -/
def object (fields : List (String × OptionValue)) : Json :=
  .object (members (Dict.ofList fields))

theorem names_texts (fields : List (String × OptionValue)) : (texts fields).map Prod.fst = fields.map Prod.fst := by
  simp [texts]

theorem ofList_members (fields : List (String × OptionValue)) :
    Dict.ofList (members fields) = members (Dict.ofList fields) :=
  Dict.ofList_map toJson fields

theorem ofList_texts (fields : List (String × OptionValue)) :
    Dict.ofList (texts fields) = texts (Dict.ofList fields) :=
  Dict.ofList_map text fields

/-! ## Values as texts -/

/-- The text of a value in a file. -/
theorem fieldText?_toJson (value : OptionValue) : OptionFile.fieldText? value.toJson = some value.text := by
  cases value <;> rfl

/-- The text of a nested value. -/
theorem scalarText_toJson (value : OptionValue) : Form.scalarText value.toJson = some value.text := by
  cases value with
  | bool value => cases value <;> rfl
  | integer value hmin hmax => exact congrArg some (Json.compact_integer value)
  | string value => rfl

theorem readsBack_toJson (bound : Nat) (nested : Option (List Char → Json.Step Json)) (value : OptionValue) :
    Json.ReadsBack (Json.readValueWith bound nested) value.toJson := by
  cases value with
  | bool value => exact Json.readsBack_bool bound nested value
  | integer value hmin hmax => exact Json.readsBack_integer bound nested hmin hmax
  | string value => exact Json.readsBack_string bound nested value

theorem readsBack_of_mem_members (bound : Nat) (nested : Option (List Char → Json.Step Json)) :
    ∀ member ∈ members fields, Json.ReadsBack (Json.readValueWith bound nested) member.2 := by
  intro member hmember
  obtain ⟨field, -, rfl⟩ := List.mem_map.mp hmember
  exact field.2.readsBack_toJson bound nested

theorem ordered_members_ofList (fields : List (String × OptionValue)) : Dict.Ordered (members (Dict.ofList fields)) := by
  rw [← ofList_members]
  exact Dict.ordered_ofList _

/-- An object of values is read back from its compact text. -/
theorem read_compact_object (fields : List (String × OptionValue)) :
    Json.read (object fields).compact = .ok (object fields) := by
  rw [object, Json.read_compact_object readsBack_of_mem_members, (ordered_members_ofList fields).ofList_eq]

/-- So is one that is nested in another object. -/
theorem read_compact_nested (name : String) (fields : List (String × OptionValue)) :
    Json.read (Json.object [(name, object fields)]).compact = .ok (.object [(name, object fields)]) :=
  Json.read_compact_object_object name (ordered_members_ofList fields) readsBack_of_mem_members

/-! ## Values as fields -/

theorem formOf_members (path : String) (fields : List (String × OptionValue)) :
    OptionFile.formOf path (members fields) = .ok (Form.ofPairs (texts fields)) := by
  rw [OptionFile.formOf, Form.ofPairs]
  generalize ({} : Form) = form
  induction fields generalizing form with
  | nil => rfl
  | cons field fields ih =>
    rw [members, List.map_cons, List.foldlM_cons]
    simp only [fieldText?_toJson, ok_bind]
    exact ih (form.insert field.1 field.2.text)

/-- Members with different names, under which there are no fields, become fields. -/
theorem addNested_members (hkeys : (fields.map Prod.fst).Nodup) (held : List (String × String))
    (hnew : ∀ name ∈ fields.map Prod.fst, Dict.get? name held = none) :
    Form.addNested (members fields) held = .ok (Dict.insertAll (texts fields) held) := by
  induction fields generalizing held with
  | nil => rfl
  | cons field fields ih =>
    -- the member becomes a field, whose name no later member has
    rw [List.map_cons, List.nodup_cons] at hkeys
    rw [List.map_cons, List.forall_mem_cons] at hnew
    have hstep : Form.addNested (members (field :: fields)) held =
        Form.addNested (members fields) (Dict.insert field.1 field.2.text held) := by
      simp [members, Form.addNested, scalarText_toJson, hnew.1]
    rw [hstep, ih hkeys.2]
    · rfl
    · intro name hname
      have hne : field.1 ≠ name := fun heq => hkeys.1 (heq ▸ hname)
      rw [Dict.get?_insert, if_neg hne, hnew.2 name hname]

end OptionValue

/-! ## Files -/

/-- A JSON file whose text denotes a value. -/
structure JsonFile (files : FileStore) (path : String) (value : Json) : Prop where
  isJson : OptionFile.isJson path
  text : ∃ text, files.readText path = .ok text ∧ Json.read text = .ok value

theorem JsonFile.load {files : FileStore} {path : String} {members : List (String × Json)} {form : Form}
    (h : JsonFile files path (.object members)) (hform : OptionFile.formOf path members = .ok form) :
    OptionFile.load files path = .ok form := by
  obtain ⟨text, htext, hjson⟩ := h.text
  have hparse : OptionFile.parse path text = .ok (.object members) := by
    rw [OptionFile.parse, if_pos h.isJson, hjson]
    rfl
  have hread : OptionFile.read path text = .ok form := by
    rw [OptionFile.read, hparse]
    exact hform
  rw [OptionFile.load, htext]
  simp only [Except.mapError, ok_bind, hread]

namespace Form

open OptionValue (texts)

variable {fields pairs : List (String × OptionValue)}

/-- The form of an object of values that is nested in a file. -/
def nestedForm (fields : List (String × OptionValue)) : Form :=
  ofPairs [(nestedName, (OptionValue.object fields).compact)]

theorem ofPairs_texts (fields : List (String × OptionValue)) :
    ofPairs (texts fields) = ⟨texts (Dict.ofList fields)⟩ := by
  rw [← OptionValue.ofList_texts]
  rfl

/-- The order in which values with different names are inserted does not matter. -/
theorem ofPairs_texts_perm (hkeys : (fields.map Prod.fst).Nodup) (hpairs : fields.Perm pairs) :
    ofPairs (texts fields) = ofPairs (texts pairs) := by
  rw [ofPairs_texts, ofPairs_texts, Dict.ofList_perm hkeys hpairs]

/-- Without a field for nested ones, the fields of a form are its own. -/
theorem expand_ofPairs_texts (hnested : nestedName ∉ fields.map Prod.fst) :
    (ofPairs (texts fields)).expand = .ok (texts (Dict.ofList fields)) := by
  have hnone : (ofPairs (texts fields)).get? nestedName = none := by
    rw [ofPairs, get?, insertAll, Dict.get?_insertAll, Option.or_eq_none_iff, Dict.get?_eq_none_iff, List.map_reverse,
      List.mem_reverse, OptionValue.names_texts]
    exact ⟨hnested, rfl⟩
  simp only [expand, hnone]
  rw [ofPairs_texts]

/-- Written and read again, nested values are the fields that they would be on their own. -/
theorem expand_nestedForm (fields : List (String × OptionValue)) :
    (nestedForm fields).expand = .ok (texts (Dict.ofList fields)) := by
  have hordered := Dict.ordered_ofList fields
  have hheld : (nestedForm fields).get? nestedName = some (OptionValue.object fields).compact := rfl
  have herase : Dict.erase nestedName (nestedForm fields).fields = [] := rfl
  have hread : Json.read (OptionValue.object fields).compact = .ok (.object (OptionValue.members (Dict.ofList fields))) :=
    OptionValue.read_compact_object fields
  have hadd : Dict.insertAll (texts (Dict.ofList fields)) [] = texts (Dict.ofList fields) := by
    change Dict.ofList (texts (Dict.ofList fields)) = _
    rw [OptionValue.ofList_texts, hordered.ofList_eq]
  simp only [expand, hheld, hread, herase]
  rw [OptionValue.addNested_members hordered.nodup [] fun _ _ => rfl, hadd]

/-- The outcome and the events of a form depend on its expanded fields alone. -/
theorem parse_congr {form other : Form} (h : form.expand = other.expand) : form.parse = other.parse := by
  rw [parse, parse, h]

end Form

open Form OptionValue

/-- Values with different names mean the same as members of a JSON file, as members of an object nested in one, and as
texts inserted into a form in any order: the first file holds that form, and the second one that has its fields nested
and comes to the same options, faults and events. -/
theorem parse_same_on_all_ways (files : FileStore) (fields pairs : List (String × OptionValue))
    (hkeys : (fields.map Prod.fst).Nodup) (hnested : nestedName ∉ fields.map Prod.fst) (hpairs : pairs.Perm fields)
    (flatPath nestedPath : String) (hflat : JsonFile files flatPath (object fields))
    (hnestedFile : JsonFile files nestedPath (.object [(nestedName, object fields)])) :
    ∃ flat nested, OptionFile.load files flatPath = .ok flat ∧ OptionFile.load files nestedPath = .ok nested ∧
      flat = ofPairs (texts pairs) ∧ nested.expand = .ok (ofPairs (texts pairs)).fields ∧
      flat.parse = (ofPairs (texts pairs)).parse ∧ nested.parse = (ofPairs (texts pairs)).parse := by
  have hflatForm : OptionFile.formOf flatPath (members (Dict.ofList fields)) = .ok (ofPairs (texts fields)) := by
    rw [formOf_members, ofPairs_texts, ofPairs_texts, (Dict.ordered_ofList fields).ofList_eq]
  have hnestedForm : OptionFile.formOf nestedPath [(nestedName, object fields)] = .ok (nestedForm fields) := rfl
  have hexpand : (nestedForm fields).expand = .ok (ofPairs (texts fields)).fields := by
    rw [expand_nestedForm, ofPairs_texts]
  have hparse : (nestedForm fields).parse = (ofPairs (texts fields)).parse :=
    parse_congr (by rw [expand_nestedForm, expand_ofPairs_texts hnested])
  rw [ofPairs_texts_perm ((hpairs.map Prod.fst).nodup_iff.mpr hkeys) hpairs]
  exact ⟨_, _, hflat.load hflatForm, hnestedFile.load hnestedForm, rfl, hexpand, rfl, hparse⟩

/-- A negative integer and an escaped tabulator. -/
theorem parse_same_of_padded_state :
    let fields := [("categoricalInput", .integer (-1) (by decide) (by decide)), ("regressionRandomState", .string "\t7"),
      ("splitDataset", .bool true)]
    let files : FileStore := ⟨[(["flat.json"], .file (Text.toBytes
        "\x7b\"categoricalInput\":-1,\"regressionRandomState\":\"\\t7\",\"splitDataset\":true\x7d")),
      (["nested.JSON"], .file (Text.toBytes
        "\x7b\"options\":\x7b\"categoricalInput\":-1,\"regressionRandomState\":\"\\t7\",\"splitDataset\":true\x7d\x7d"))], []⟩
    ∃ flat nested, OptionFile.load files "flat.json" = .ok flat ∧ OptionFile.load files "nested.JSON" = .ok nested ∧
      flat = ofPairs (texts fields.reverse) ∧ nested.expand = .ok (ofPairs (texts fields.reverse)).fields ∧
      flat.parse = (ofPairs (texts fields.reverse)).parse ∧ nested.parse = (ofPairs (texts fields.reverse)).parse := by
  intro fields files
  have hflat : JsonFile files "flat.json" (object fields) :=
    ⟨by decide +kernel, (object fields).compact, by decide +kernel, read_compact_object fields⟩
  have hnested : JsonFile files "nested.JSON" (.object [(nestedName, object fields)]) :=
    ⟨by decide +kernel, (Json.object [(nestedName, object fields)]).compact, by decide +kernel,
      read_compact_nested nestedName fields⟩
  exact parse_same_on_all_ways files fields fields.reverse (by decide) (by decide) (List.reverse_perm fields) "flat.json"
    "nested.JSON" hflat hnested

end TableScript
