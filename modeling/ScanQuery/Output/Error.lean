import ScanQuery.FileTree
import ScanQuery.Layout
import ScanQuery.Output.Format
import ScanQuery.Template.Fault

/-!
What can go wrong when a result is shown.
-/

namespace ScanQuery

/-- Why there is no output. -/
inductive OutputError where
  | layout (cause : LayoutError)
  | unsupportedFormat (requested : String)
  | sink (cause : String)
  | templateNotFound (path : String)
  | templateRead (path : String) (cause : FileTree.Fault)
  | template (path : String) (cause : Template.Fault)
  deriving DecidableEq, Repr

namespace OutputError

/-- The error in words. -/
def message : OutputError → String
  | layout cause => "Match error: " ++ cause.message
  | unsupportedFormat requested =>
    "Unsupported output format '" ++ requested ++ "'. Supported formats: [" ++
      ", ".intercalate (Format.all.map Format.name) ++ "]"
  | sink cause => "Failed to write output: " ++ cause
  | templateNotFound path => "Output template '" ++ path ++ "' cannot be found"
  | templateRead path cause =>
    "Failed to read output template '" ++ path ++ "': " ++ cause.message
  | template path cause => "Output template '" ++ path ++ "' failed: " ++ cause.message

end OutputError

/-- The format that a text names, or the error that names the formats there are. -/
def Format.parse (text : String) : Except OutputError Format :=
  match parse? text with
  | some f => .ok f
  | none => .error (.unsupportedFormat (spelling text))

end ScanQuery
