import TableScript.Configuration
import TableScript.Configuration.Setting

/-!
# Reading configurations from settings

The configuration that a tree of settings describes.  Texts count as truth values where they are words for them,
numbers as truth values and as texts, and the names of policies count in any case.
-/

namespace TableScript

namespace Setting

/-- The truth value that a setting stands for. -/
def toBool (key : String) : Setting → Except ConfigurationFault Bool
  | scalar (.bool value) _ => .ok value
  | scalar (.integer value) _ => .ok (value ≠ 0)
  | scalar (.float value) _ => .ok (!value.isZero)
  | scalar (.infinite _) _ => .ok true
  | scalar .notNumber _ => .ok true
  | scalar (.text text) source =>
    let word := Text.lowerCase text
    if ["1", "true", "on", "yes"].contains word then .ok true
    else if ["0", "false", "off", "no"].contains word then .ok false
    else .error (.wrongType (.scalar (.text word)) "a boolean" key source)
  | setting => .error (.wrongType setting.shape "a boolean" key setting.source)

/-- The text that a setting stands for. -/
def toText (key : String) : Setting → Except ConfigurationFault String
  | scalar (.text text) _ => .ok text
  | scalar (.bool value) _ => .ok (if value then "true" else "false")
  | scalar (.integer value) _ => .ok (toString value)
  | scalar (.float value) _ => .ok (value.text .positional)
  | scalar (.infinite negative) _ => .ok (Scalar.infinityText negative)
  | scalar .notNumber _ => .ok "NaN"
  | setting => .error (.wrongType setting.shape "a string" key setting.source)

/-- The text that a setting stands for; null stands for none. -/
def toOptionalText (key : String) : Setting → Except ConfigurationFault (Option String)
  | scalar .null _ => .ok none
  | setting => (setting.toText key).map some

/-- The texts that the members of a table stand for. -/
def toTexts (key : String) : Setting → Except ConfigurationFault (List (String × String))
  | table members _ => members.mapM fun (name, setting) => (setting.toText (key ++ "." ++ name)).map (name, ·)
  | setting => .error (.wrongShape setting.shape "a map")

/-- The policy that a setting names, as a text or as the only key of a table. -/
def toPolicy {α : Type} (policy : String) (names : List (String × α)) : Setting → Except ConfigurationFault α
  | scalar (.text name) _ => find name
  | table [(name, _)] _ => find name
  | _ => .error (.notPolicy policy)
where
  find (name : String) : Except ConfigurationFault α :=
    match names.find? fun entry => Text.lowerCase entry.1 = Text.lowerCase name with
    | some entry => .ok entry.2
    | none => .error (.unknownPolicy policy name)

/-- What the settings of a section do, each under its key. -/
abbrev Fields (σ : Type) := List (String × (String → Setting → Except ConfigurationFault (σ → σ)))

/-- A section as a table, or as a list of its settings in their order.  Settings with unknown keys do not count. -/
def toSection {σ : Type} (name key : String) (fields : Fields σ) (start : σ) :
    Setting → Except ConfigurationFault σ
  | table members _ =>
    members.foldlM (fun state (member, setting) =>
      match fields.find? fun field => field.1 = member with
      | some (_, set) => (set (key ++ "." ++ member) setting).map (· state)
      | none => .ok state) start
  | list items _ =>
    (fields.zip items).zipIdx.foldlM (fun state (((_, set), setting), i) =>
      (set (key ++ "[" ++ toString i ++ "]") setting).map (· state)) start
  | setting => .error (.wrongShape setting.shape ("struct " ++ name))

end Setting

open Setting (Fields)

def Settings.settingFields : Fields Settings := [
  ("unknown_algorithm", fun _ setting =>
    (setting.toPolicy "UnknownAlgorithmPolicy"
      ([AlgorithmPolicy.error, .skip].map fun policy => (policy.name, policy))).map
      fun policy settings => { settings with unknownAlgorithm := policy }),
  ("ragged_rows", fun _ setting =>
    (setting.toPolicy "RaggedRowPolicy" ([RowPolicy.allow, .reject].map fun policy => (policy.name, policy))).map
      fun policy settings => { settings with raggedRows := policy })]

def LogSettings.settingFields : Fields LogSettings := [
  ("enabled", fun key setting => (setting.toBool key).map fun enabled settings => { settings with enabled }),
  ("level", fun key setting => (setting.toText key).map fun level settings => { settings with level }),
  ("format", fun key setting => (setting.toText key).map fun format settings => { settings with format }),
  ("output", fun key setting => (setting.toText key).map fun output settings => { settings with output }),
  ("file", fun key setting => (setting.toOptionalText key).map fun file settings => { settings with file }),
  ("color", fun key setting => (setting.toBool key).map fun color settings => { settings with color }),
  ("modules", fun key setting => (setting.toTexts key).map fun modules settings => { settings with modules })]

/-- The configuration that settings describe. -/
def Configuration.ofSettings (members : List (String × Setting)) : Except ConfigurationFault Configuration := do
  let generator ← match Dict.get? "generator" members with
    | some setting => setting.toSection "GeneratorSettings" "generator" Settings.settingFields {}
    | none => .ok {}
  let logging ← match Dict.get? "logging" members with
    | some setting => setting.toSection "LoggingConfig" "logging" LogSettings.settingFields {}
    | none => .ok {}
  return { generator, logging }

end TableScript
