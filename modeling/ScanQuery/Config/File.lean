import ScanQuery.Config.Settings
import ScanQuery.Toml.Reader

/-!
Settings files. A file sets some of the settings and leaves the others as they are. Settings stand
in sections, one for each group; a section may also be written as a list of its values, in the
order in which the group declares them, and a list that is too short sets fewer of them. Sections
and settings with other names are passed over.
-/

namespace ScanQuery

/-- What a settings file sets. -/
structure Config.Overrides where
  threshold : Option Log.Level
  structured : Option Bool
  extension : Option String
  resolveNames : Option Bool
  marker : Option String
  portscanQuery : Option String
  unmatchedMinimum : Option Severity
  deriving DecidableEq, Repr

namespace Config

/-- The settings with those of a file in place of the ones it sets. -/
def Overrides.apply (o : Overrides) (c : Config) : Config where
  logging := ⟨o.threshold.getD c.logging.threshold, o.structured.getD c.logging.structured⟩
  ingest := ⟨o.extension.getD c.ingest.extension, o.resolveNames.getD c.ingest.resolveNames⟩
  output := ⟨o.marker.getD c.output.marker, o.portscanQuery.getD c.output.portscanQuery,
    o.unmatchedMinimum.getD c.output.unmatchedMinimum⟩

/-! ### Values -/

/-- A text. -/
def text? : Toml.Value → Option String
  | .string s => some s
  | _ => none

/-- A truth value. -/
def truth? : Toml.Value → Option Bool
  | .boolean b => some b
  | _ => none

/-- A severity by its code; a code that does not exist stands for the lowest level. -/
def severity? (v : Toml.Value) : Option Severity :=
  (text? v).map Severity.ofCode

/-- Whether a value holds nothing. -/
def isVoid : Toml.Value → Bool
  | .array vs => vs.isEmpty
  | .tables vs => vs.isEmpty
  | .table _ fields => fields.isEmpty
  | _ => false

/-- A log level by its name, or as a table whose only field bears the name and holds nothing. -/
def level? : Toml.Value → Option Log.Level
  | .string s => Log.Level.ofName? s
  | .table _ [(name, v)] => if isVoid v then Log.Level.ofName? name else none
  | _ => none

/-! ### Sections -/

/-- The fields of a section whose settings bear the given names. A moment sets nothing. -/
def sectionFields (names : List String) : Toml.Value → Option Toml.Fields
  | .table _ fields => some fields
  | .array vs => some (names.zip vs)
  | .tables vs => some (names.zip vs)
  | .moment => some []
  | _ => none

/-- The fields of the section with a name; a section that is not there sets nothing. -/
def openSection (document : Toml.Fields) (name : String) (names : List String) :
    Except Toml.Fault Toml.Fields :=
  match document.lookup name with
  | none => .ok []
  | some v =>
    match sectionFields names v with
    | some fields => .ok fields
    | none => .error (.wrongType name)

/-- The setting with a name, if the section sets it. -/
def setting {α : Type} (read : Toml.Value → Option α) (fields : Toml.Fields) (name : String) :
    Except Toml.Fault (Option α) :=
  match fields.lookup name with
  | none => .ok none
  | some v =>
    match read v with
    | some a => .ok (some a)
    | none => .error (.wrongType name)

/-- What the tables of a settings file set. -/
def Overrides.ofDocument (document : Toml.Fields) : Except Toml.Fault Overrides := do
  let logging ← openSection document "logging" ["min_log_level", "structured"]
  let threshold ← setting level? logging "min_log_level"
  let structured ← setting truth? logging "structured"
  let ingest ← openSection document "ingest" ["file_extension", "resolve_hostnames"]
  let extension ← setting text? ingest "file_extension"
  let resolveNames ← setting truth? ingest "resolve_hostnames"
  let output ← openSection document "output"
    ["marker_prefix", "portscan_query", "unmatched_min_severity"]
  let marker ← setting text? output "marker_prefix"
  let portscanQuery ← setting text? output "portscan_query"
  let unmatchedMinimum ← setting severity? output "unmatched_min_severity"
  return ⟨threshold, structured, extension, resolveNames, marker, portscanQuery,
    unmatchedMinimum⟩

/-- What the text of a settings file sets. -/
def Overrides.parse (text : String) : Except Toml.Fault Overrides := do
  Overrides.ofDocument (← Toml.parse text)

end Config

end ScanQuery
