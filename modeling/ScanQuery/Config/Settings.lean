import ScanQuery.Log.Level
import ScanQuery.Severity

/-!
Settings: what is logged, how reports are read and how results are written. Each setting has a
built-in default, which an environment variable may replace; a variable with a value that makes
no sense has no effect.
-/

namespace ScanQuery

/-- What is logged, and how. -/
structure LogSettings where
  threshold : Log.Level
  structured : Bool
  deriving DecidableEq, Repr

/-- How reports are read. -/
structure IngestSettings where
  extension : String
  resolveNames : Bool
  deriving DecidableEq, Repr

/-- How results are written. -/
structure OutputSettings where
  marker : String
  portscanQuery : String
  unmatchedMinimum : Severity
  deriving DecidableEq, Repr

/-- All settings. -/
structure Config where
  logging : LogSettings
  ingest : IngestSettings
  output : OutputSettings
  deriving DecidableEq, Repr

/-- The variables of the environment by their names. -/
abbrev Environment := List (String × String)

/-- The marker at the start of template lines that are replaced. -/
def defaultMarker : String := "%%%NESSQ:"

/-- The query of a port overview: the plugins that scan ports and identify services, without the
entries that belong to a host as a whole. -/
def defaultPortscanQuery : String := "pluginid=11219,34277,10335 and not port=0"

/-- The line that stands for an empty result. -/
def placeholderOf (marker : String) : String :=
  marker ++ " no hosts matched!!"

/-- The line that stands for an empty result in the user's documents. -/
def OutputSettings.placeholder (s : OutputSettings) : String :=
  placeholderOf s.marker

/-- A truth value spelled out. -/
def readBool? (text : String) : Option Bool :=
  if text = "true" then some true
  else if text = "false" then some false
  else none

namespace Config

/-- The logging settings of an environment. -/
def defaultLogging (env : Environment) : LogSettings where
  threshold := ((env.lookup "NESSQ_LOG_LEVEL").bind Log.Level.parse?).getD .info
  structured := ((env.lookup "NESSQ_STRUCTURED_LOGS").bind readBool?).getD false

/-- The reading settings of an environment. -/
def defaultIngest (env : Environment) : IngestSettings where
  extension := ((env.lookup "NESSQ_FILE_EXTENSION").filter (!Text.isBlankText ·)).getD "nessus"
  resolveNames := ((env.lookup "NESSQ_RESOLVE_HOSTNAMES").bind readBool?).getD true

/-- The writing settings of an environment. -/
def defaultOutput (env : Environment) : OutputSettings where
  marker := ((env.lookup "NESSQ_MARKER_PREFIX").filter (!·.isEmpty)).getD defaultMarker
  portscanQuery := defaultPortscanQuery
  unmatchedMinimum := .medium

/-- The settings of an environment. -/
def default (env : Environment) : Config :=
  ⟨defaultLogging env, defaultIngest env, defaultOutput env⟩

end Config

end ScanQuery
