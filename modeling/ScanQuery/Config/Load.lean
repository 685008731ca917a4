import ScanQuery.Config.File
import ScanQuery.FileTree

/-!
Loading the settings. The defaults of the environment come first and the settings file replaces
what it sets. Settings under which the program could not work are refused: a marker that would
stand before every line, an empty query for port overviews, and an extension that no file has.
-/

namespace ScanQuery

/-- What is wrong with a value. -/
inductive Complaint where
  | blank
  | notBare
  | unknownLevel (text : String)
  deriving DecidableEq, Repr

/-- The complaint in words. -/
def Complaint.reason : Complaint → String
  | blank => "must not be empty"
  | notBare => "must be a bare extension such as 'nessus'"
  | unknownLevel text => "unknown level '" ++ text ++ "'"

/-- Why there are no settings to work with. -/
inductive ConfigError where
  | read (path : String) (cause : FileTree.Fault)
  | parse (cause : Toml.Fault)
  | invalid (setting : String) (complaint : Complaint)
  deriving DecidableEq, Repr

/-- The error in words. -/
def ConfigError.message : ConfigError → String
  | read path cause => "Failed to read config file " ++ path ++ ": " ++ cause.message
  | parse cause => "Failed to parse config: " ++ cause.message
  | invalid setting complaint =>
    "Invalid value for '" ++ setting ++ "': " ++ complaint.reason

namespace Config

/-- The settings that the text of a file gives in an environment. -/
def parse (env : Environment) (text : String) : Except ConfigError Config :=
  match Overrides.parse text with
  | .ok overrides => .ok (overrides.apply (default env))
  | .error cause => .error (.parse cause)

/-- Whether an extension cannot be one: it is blank or still has its dot. -/
def isNotBare (extension : String) : Bool :=
  let trimmed := Text.trimChars extension.toList
  trimmed.isEmpty || trimmed.head? == some '.'

/-- The settings, unless one of them is refused. -/
def validate (c : Config) : Except ConfigError Config :=
  if Text.isBlankText c.output.marker then .error (.invalid "output.marker_prefix" .blank)
  else if Text.isBlankText c.output.portscanQuery then
    .error (.invalid "output.portscan_query" .blank)
  else if isNotBare c.ingest.extension then .error (.invalid "ingest.file_extension" .notBare)
  else .ok c

/-- The settings of an environment, and of a file if one is given. -/
def load (env : Environment) (files : FileTree) (path : Option String) :
    Except ConfigError Config :=
  match path with
  | none => validate (default env)
  | some path =>
    match files.read path with
    | .error cause => .error (.read path cause)
    | .ok text => (parse env text).bind validate

end Config

end ScanQuery
