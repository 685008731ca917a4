/-!
Event codes. Each code of the catalogue has a category, a description and a note whether the
program can go on after it. For a code outside the catalogue the category is read off its first
letter.
-/

namespace ScanQuery.Log

/-- The code of an event. -/
abbrev Code := String

/-- What the catalogue knows about a code. -/
structure CodeEntry where
  code : Code
  category : String
  recoverable : Bool
  description : String

namespace Code

def configurationInvalid : Code := "ERR003"
def malformedClause : Code := "E010"
def unknownKey : Code := "E011"
def unsupportedSyntax : Code := "E012"
def pathNotFound : Code := "E020"
def readFailure : Code := "E021"
def documentFailure : Code := "E022"
def noMatchedHosts : Code := "E030"
def renderFailure : Code := "E040"
def templateFailure : Code := "E041"
def writeFailure : Code := "E042"
def unmatchedPlugins : Code := "W040"
def loggingStarted : Code := "I001"
def reportParsed : Code := "I002"
def queryEvaluated : Code := "I003"
def templateWritten : Code := "I004"

/-- The codes of events that have none of their own. -/
def plainWarning : Code := "W000"
def plainInfo : Code := "I000"
def plainDebug : Code := "D000"

/-- Every code with a meaning of its own. -/
def catalogue : List CodeEntry :=
  [⟨"ERR001", "System", false, "Internal error"⟩,
    ⟨configurationInvalid, "System", false, "Configuration is invalid"⟩,
    ⟨malformedClause, "Query", true, "Clause has no operator"⟩,
    ⟨unknownKey, "Query", true, "Clause uses an unknown key"⟩,
    ⟨unsupportedSyntax, "Query", true, "Query uses unsupported syntax"⟩,
    ⟨pathNotFound, "Ingest", false, "Input path does not exist"⟩,
    ⟨readFailure, "Ingest", false, "Input file could not be read"⟩,
    ⟨documentFailure, "Ingest", false, "Report XML could not be parsed"⟩,
    ⟨noMatchedHosts, "Match", true, "No hosts matched the query"⟩,
    ⟨renderFailure, "Output", false, "Rendering failed"⟩,
    ⟨templateFailure, "Output", false, "Template could not be processed"⟩,
    ⟨writeFailure, "Output", false, "Output could not be written"⟩,
    ⟨unmatchedPlugins, "Output", true, "Plugins not covered by the template"⟩,
    ⟨loggingStarted, "Success", true, "Logging initialized"⟩,
    ⟨reportParsed, "Success", true, "Report file parsed"⟩,
    ⟨queryEvaluated, "Success", true, "Query evaluated"⟩,
    ⟨templateWritten, "Success", true, "Template written"⟩]

/-- The catalogue entry of a code. -/
def catalogued? (code : Code) : Option CodeEntry :=
  catalogue.find? (·.code = code)

/-- The category of a code. -/
def category (code : Code) : String :=
  match code.catalogued? with
  | some entry => entry.category
  | none =>
    match code.toList.head? with
    | some 'W' => "Warning"
    | some 'I' => "Info"
    | some 'D' => "Debug"
    | _ => "Unknown"

/-- The description of a code. -/
def description (code : Code) : String :=
  (code.catalogued?.map (·.description)).getD "Unknown error"

/-- Whether the program can go on after an event with this code. -/
def recoverable (code : Code) : Bool :=
  (code.catalogued?.map (·.recoverable)).getD true

end Code

end ScanQuery.Log
