import ScanQuery.Log.Logged
import ScanQuery.Output.Fetch

/-!
Filling documents. A document is copied line by line; a line that begins with the marker is
replaced by the result of the query behind it, or by the port overview when what follows names
it. Where nothing matches the placeholder stands. The plugins of all markers are collected, each
once, so that the author can be told which plugins the document does not cover.

A first line that names a template for lists and one for tables is not copied: it sets how the
results are shown.
-/

namespace ScanQuery.Fill

/-- Why a document cannot be filled. -/
inductive Error where
  | templateNotFound (path : String)
  | readTemplate (path : String) (cause : FileTree.Fault)
  | writeOutput (path : String) (cause : FileTree.Fault)
  | missingTable
  | missingList
  | customTemplate (cause : OutputError)
  | render (marker : String) (cause : OutputError)
  deriving DecidableEq, Repr

/-- The error in words. -/
def Error.message : Error → String
  | templateNotFound path => "Template file '" ++ path ++ "' does not exist"
  | readTemplate path cause => "Failed to read template '" ++ path ++ "': " ++ cause.message
  | writeOutput path cause => "Failed to write '" ++ path ++ "': " ++ cause.message
  | missingTable => "The custom format header sets list= but is missing table="
  | missingList => "The custom format header sets table= but is missing list="
  | customTemplate cause => "Failed to load custom format templates: " ++ cause.message
  | render marker cause => "Failed to render marker '" ++ marker ++ "': " ++ cause.message

/-- A document that is being filled: its text so far, the numbers of lines read and of markers
replaced, and the plugins matched. -/
structure Progress where
  text : String
  lines : Nat
  markers : Nat
  plugins : List Plugin
  deriving DecidableEq, Repr

/-- What a document is filled from. -/
structure Source where
  time : String
  collection : Collection
  settings : OutputSettings
  files : FileTree

/-! ### The header -/

/-- The path behind `name=` in the parts of a header, the last one when there are several. -/
def headerPath? (name : String) (parts : List String) : Option String :=
  (parts.filterMap fun part =>
    match Text.splitOnce? "=" part with
    | some (key, path) => if Text.trim key = name then some (Text.trim path) else none
    | none => none).getLast?

/-- The paths for lists and tables in the body of a marker. -/
def headerPaths (body : String) : Option String × Option String :=
  let parts := Text.split "," body
  (headerPath? "list" parts, headerPath? "table" parts)

/-- The templates that the body of a marker sets, if it is a header. -/
def header (files : FileTree) (body : String) :
    ExceptT Error Log.Logged (Option CustomTemplate) :=
  match headerPaths body with
  | (none, none) => return none
  | (some _, none) => throw .missingTable
  | (none, some _) => throw .missingList
  | (some list, some table) => do
    Log.Logged.log (.debug "Custom format header" [("list", list), ("table", table)])
    match CustomTemplate.loadByLayout files list table with
    | .ok t => return some t
    | .error cause => throw (.customTemplate cause)

/-! ### Lines -/

/-- Whether the body of a marker asks for the port overview. -/
def asksForPorts (body : String) : Bool :=
  Text.contains body "portscan"

/-- The query that the body of a marker stands for. -/
def markerQuery (settings : OutputSettings) (body : String) : String :=
  if asksForPorts body then settings.portscanQuery else body

/-- The body of a marker line: what follows the marker, trimmed. -/
def markerBody? (settings : OutputSettings) (line : String) : Option String :=
  (Text.afterStart? settings.marker line).map Text.trim

/-- The files that the first line of a document names, if it is a header. -/
def headerFiles (settings : OutputSettings) (document : String) : List String :=
  match (Text.lines document).head?.bind (markerBody? settings) with
  | some body =>
    let (list, table) := headerPaths body
    list.toList ++ table.toList
  | none => []

/-- The text of a marker and the result behind it. -/
def markerText (source : Source) (renderer : Renderer) (body : String) :
    Except Error (String × Matches) :=
  let m := runQuery source.time (markerQuery source.settings body) source.collection
  if m.isEmpty then .ok (source.settings.placeholder, m)
  else
    match m.fetch renderer with
    | (.ok text, m) => .ok (text, m)
    | (.error cause, _) => .error (.render body cause)

/-- What a marker tells. -/
def markerEvents (source : Source) (renderer : Renderer) (body : String) : List Log.Event :=
  let query := markerQuery source.settings body
  let m := runQuery source.time query source.collection
  runQueryEvents source.time query source.collection ++
    if m.isEmpty then [] else m.fetchEvents renderer

/-- The document with one more line. -/
def addLine (source : Source) (renderer : Renderer) (p : Progress) (line : String) :
    ExceptT Error Log.Logged Progress :=
  let number := p.lines + 1
  match markerBody? source.settings line with
  | none => return { p with text := p.text ++ line ++ "\n", lines := number }
  | some body => do
    Log.Logged.log (.debug "Expanding marker" [("line", toString number), ("marker", body)])
    let (text, m) ← (⟨markerEvents source renderer body, markerText source renderer body⟩ :
      Log.Logged (Except Error (String × Matches)))
    return ⟨p.text ++ Text.dropFinalNewlines text ++ "\n", number, p.markers + 1,
      m.plugins.foldl Plugin.addNew p.plugins⟩

/-- The filled text of a document. -/
def render (source : Source) (document : String) : ExceptT Error Log.Logged Progress := do
  let lines := Text.lines document
  let custom ← match lines.head?.bind (markerBody? source.settings) with
    | some body => header source.files body
    | none => pure none
  match custom with
  | some t => (lines.drop 1).foldlM (addLine source (.custom t)) ⟨"", 1, 0, []⟩
  | none => lines.foldlM (addLine source (.builtin .auto)) ⟨"", 0, 0, []⟩

/-! ### Files -/

/-- What was written, and what the document does not cover. -/
structure Outcome where
  path : String
  lines : Nat
  markers : Nat
  matched : List Plugin
  unmatched : List Plugin
  deriving DecidableEq, Repr

/-- The plugins that a document does not cover, from the level up that is asked for. -/
def uncovered (source : Source) (p : Progress) : List Plugin :=
  (Plugin.unmatched p.plugins source.collection.plugins).filter fun plugin =>
    source.settings.unmatchedMinimum ≤ plugin.severity

/-- Fills the document in one file and writes it to another, after all of it is filled. -/
def write (source : Source) (template output : String) :
    ExceptT Error Log.Logged (Outcome × FileTree) := do
  if !source.files.isFile template then
    Log.Logged.log (.error Log.Code.templateFailure "Template file does not exist"
      [("path", template)])
    throw (.templateNotFound template)
  let document ← match source.files.read template with
    | .ok document => pure document
    | .error cause => throw (.readTemplate template cause)
  let p ← render source document
  match source.files.write output p.text with
  | .error cause =>
    Log.Logged.log (.error Log.Code.writeFailure "Failed to write output file" [("path", output)])
    throw (.writeOutput output cause)
  | .ok files =>
    Log.Logged.log (.success Log.Code.templateWritten "Template written"
      [("path", output), ("markers", toString p.markers)])
    let unmatched := uncovered source p
    if !unmatched.isEmpty then
      Log.Logged.log (.warningWithCode Log.Code.unmatchedPlugins
        "Template leaves plugins unmatched" [("count", toString unmatched.length),
          ("min_severity", source.settings.unmatchedMinimum.label)])
    return (⟨output, p.lines, p.markers, p.plugins, unmatched⟩, files)

end ScanQuery.Fill
