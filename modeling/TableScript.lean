import TableScript.Configuration.Document
import TableScript.Configuration.Encoding
import TableScript.Main
import TableScript.Options.Encoding
import TableScript.Settings.Encoding
import TableScript.Proofs.Outcome
import TableScript.Proofs.Options.Overriding
import TableScript.Proofs.Script.Walk
import TableScript.Proofs.Script.Generation
import TableScript.Proofs.Script.Substitution
import TableScript.Proofs.Script.Filling
import TableScript.Proofs.Script.Assembly
import TableScript.Proofs.Script.Layout
import TableScript.Proofs.Script.Line
import TableScript.Proofs.Script.Variables
import TableScript.Proofs.Options.Nesting
import TableScript.Proofs.Options.Reach
import TableScript.Proofs.Options.Expression
import TableScript.Proofs.Json.Scalars
import TableScript.Proofs.Options.Transport
import TableScript.Proofs.Script.Dependencies
import TableScript.Proofs.Script.ImportBlock
import TableScript.Proofs.Script.Delimiters
import TableScript.Proofs.Script.Locality
import TableScript.Proofs.Script.Libraries
import TableScript.Proofs.Script.Braces
import TableScript.Proofs.Log.Precedence
import TableScript.Proofs.Options.RandomState
import TableScript.Proofs.Configuration.Layering
import TableScript.Proofs.Options.Independence
import TableScript.Proofs.Script.Quoting
import TableScript.Proofs.Options.Grammar
import TableScript.Proofs.Dataset.Writing
import TableScript.Proofs.Dataset.LineEnds
import TableScript.Proofs.Dataset.Policies
import TableScript.Proofs.Script.ColumnSlice
import TableScript.Proofs.Log.Validation
import TableScript.Proofs.Log.Files
import TableScript.Proofs.Report.Json
