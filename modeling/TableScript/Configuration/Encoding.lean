import TableScript.Configuration
import TableScript.Settings.Encoding

/-!
# Configurations as JSON and TOML

An object with the sections `generator` and `logging`; what is left out keeps its default.
-/

namespace TableScript

open Json (Decoder)

namespace LogSettings

def fields : List (Decoder.Field LogSettings) := [
  { key := "enabled", decoder := Decoder.bool.map fun value settings => { settings with enabled := value } },
  { key := "level", decoder := Decoder.text.map fun value settings => { settings with level := value } },
  { key := "format", decoder := Decoder.text.map fun value settings => { settings with format := value } },
  { key := "output", decoder := Decoder.text.map fun value settings => { settings with output := value } },
  { key := "file", decoder := Decoder.text.optional.map fun value settings => { settings with file := value } },
  { key := "color", decoder := Decoder.bool.map fun value settings => { settings with color := value } },
  { key := "modules"
    decoder := Decoder.text.dict.map fun value settings => { settings with modules := value } }]

def decoder : Decoder LogSettings :=
  Decoder.record "LoggingConfig" fields {}

def toJson (settings : LogSettings) : Json :=
  .object [
    ("color", .bool settings.color),
    ("enabled", .bool settings.enabled),
    ("file", .ofOption .string settings.file),
    ("format", .string settings.format),
    ("level", .string settings.level),
    ("modules", .object (settings.modules.map fun entry => (entry.1, .string entry.2))),
    ("output", .string settings.output)]

end LogSettings

namespace Configuration

def fields : List (Decoder.Field Configuration) := [
  { key := "generator"
    decoder := Settings.decoder.map fun value configuration => { configuration with generator := value } },
  { key := "logging"
    decoder := LogSettings.decoder.map fun value configuration => { configuration with logging := value } }]

def decoder : Decoder Configuration :=
  Decoder.record "PipewrightConfig" fields {}

def toJson (configuration : Configuration) : Json :=
  .object [("generator", configuration.generator.toJson), ("logging", configuration.logging.toJson)]

end Configuration

end TableScript
