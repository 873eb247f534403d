import TableScript.Json.Decoder
import TableScript.Json.Printer
import TableScript.Script

/-!
# Reports on scripts

A script is shown as its text, or as JSON together with the dataset's name and the text's fingerprint; there the
members are in the order of their names.
-/

namespace TableScript

open Json (Decoder)

def StageId.decoder : Decoder StageId :=
  Decoder.variant (StageId.all.map fun id => (id.name, id))

def Plan.decoder : Decoder (List StageId) :=
  Decoder.list StageId.decoder

namespace Script

def toJson (script : Script) : Json :=
  .object [
    ("missing_imports", .strings script.missingImports),
    ("produced_by", .strings (script.producedBy.map StageId.name)),
    ("text", .string script.text)]

def reportText (script : Script) : String :=
  script.text

def reportJson (fileName : String) (script : Script) : String :=
  Json.pretty (.object [
    ("file_name", .string fileName),
    ("fingerprint", .string script.fingerprint),
    ("missing_imports", .strings script.missingImports),
    ("produced_by", .strings (script.producedBy.map StageId.name)),
    ("text", .string script.text)])

end Script

end TableScript
