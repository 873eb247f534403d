import TableScript.Configuration
import TableScript.Dict
import TableScript.Toml.Reader

/-!
# Configurations in TOML

A whole configuration as one TOML document, in which every setting has to have its own type.
-/

namespace TableScript.Toml

/-- What the settings of a section do, each under its key. -/
abbrev Section (σ : Type) := List (String × (Toml → Option (σ → σ)))

/-- A section as a table, or as an array of its settings in their order.  Settings with unknown keys do not
count. -/
def record? {σ : Type} (fields : Section σ) (start : σ) : Toml → Option σ
  | table members =>
    members.foldlM (fun state (key, value) =>
      match fields.find? fun field => field.1 = key with
      | some (_, set) => (set value).map (· state)
      | none => some state) start
  | array items => (fields.zip items).foldlM (fun state ((_, set), value) => (set value).map (· state)) start
  | datetime _ => some start
  | _ => none

def text? : Toml → Option String
  | string value => some value
  | _ => none

def bool? : Toml → Option Bool
  | bool value => some value
  | _ => none

/-- One of some names, as a string or as the only key of a table whose value is an empty table or array. -/
def name? {α : Type} (names : List (String × α)) : Toml → Option α
  | string name => find name
  | table [(name, table [])] | table [(name, array [])] => find name
  | _ => none
where
  find (name : String) : Option α :=
    (names.find? fun entry => entry.1 = name).map Prod.snd

/-- A table of texts, in the order of their keys; a date or time is one with a single text. -/
def texts? : Toml → Option (List (String × String))
  | table members => do
    let texts ← members.mapM fun (key, value) => (text? value).map (key, ·)
    return Dict.ofList texts
  | datetime text => some [(datetimeKey, text)]
  | _ => none

end TableScript.Toml

namespace TableScript

open Toml (Section record? text? bool? name? texts?)

def Settings.tomlSection : Section Settings := [
  ("unknown_algorithm", fun value =>
    (name? ([AlgorithmPolicy.error, .skip].map fun policy => (policy.name, policy)) value).map
      fun policy settings => { settings with unknownAlgorithm := policy }),
  ("ragged_rows", fun value =>
    (name? ([RowPolicy.allow, .reject].map fun policy => (policy.name, policy)) value).map
      fun policy settings => { settings with raggedRows := policy })]

def LogSettings.tomlSection : Section LogSettings := [
  ("enabled", fun value => (bool? value).map fun enabled settings => { settings with enabled }),
  ("level", fun value => (text? value).map fun level settings => { settings with level }),
  ("format", fun value => (text? value).map fun format settings => { settings with format }),
  ("output", fun value => (text? value).map fun output settings => { settings with output }),
  ("file", fun value => (text? value).map fun file settings => { settings with file := some file }),
  ("color", fun value => (bool? value).map fun color settings => { settings with color }),
  ("modules", fun value => (texts? value).map fun modules settings => { settings with modules })]

namespace Configuration

def tomlSection : Section Configuration := [
  ("generator", fun value => (record? Settings.tomlSection {} value).map
    fun generator configuration => { configuration with generator }),
  ("logging", fun value => (record? LogSettings.tomlSection {} value).map
    fun logging configuration => { configuration with logging })]

/-- The configuration that a TOML document describes. -/
def ofToml? (text : String) : Option Configuration := do
  record? tomlSection {} (.table (← Toml.read text))

end Configuration

end TableScript
