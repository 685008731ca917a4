import ScanQuery.Output.Error
import ScanQuery.Report
import ScanQuery.Template.Eval

/-!
Renderers: the built-in formats and templates of the user's own. Rendering sorts the result,
decides its layout and makes the text from the report. It leaves the result sorted, with the
shared ports noted, also when it fails; what it shows does not depend on what was rendered before.
-/

namespace ScanQuery

/-- A template with the path it was read from. -/
structure TemplateFile where
  path : String
  source : String
  deriving DecidableEq, Repr

/-- A template for every result, or one for each layout. -/
inductive CustomTemplate where
  | single (file : TemplateFile)
  | byLayout (list table : TemplateFile)
  deriving DecidableEq, Repr

/-- What makes a text from a result. -/
inductive Renderer where
  | builtin (format : Format)
  | custom (template : CustomTemplate)
  deriving DecidableEq, Repr

namespace TemplateFile

/-- The template in a file. -/
def load (files : FileTree) (path : String) : Except OutputError TemplateFile :=
  if files.isFile path then
    match files.read path with
    | .ok source => .ok ⟨path, source⟩
    | .error cause => .error (.templateRead path cause)
  else .error (.templateNotFound path)

/-- The text that a template gives for a report. -/
def render (t : TemplateFile) (r : Report) : Except OutputError String :=
  match Template.render t.source r.toJson with
  | .ok text => .ok text
  | .error cause => .error (.template t.path cause)

end TemplateFile

namespace CustomTemplate

/-- The templates for lists and tables in two files. -/
def loadByLayout (files : FileTree) (list table : String) : Except OutputError CustomTemplate := do
  return .byLayout (← TemplateFile.load files list) (← TemplateFile.load files table)

/-- The template in a file, for every result. -/
def loadSingle (files : FileTree) (path : String) : Except OutputError CustomTemplate := do
  return .single (← TemplateFile.load files path)

/-- The template for a layout. -/
def select (t : CustomTemplate) (layout : Layout) : TemplateFile :=
  match t, layout with
  | single file, _ => file
  | byLayout list _, .list _ => list
  | byLayout _ table, .table => table

end CustomTemplate

namespace Format

/-- The text of a report in a format, where `auto` follows the layout. -/
def present (f : Format) (layout : Layout) (r : Report) : String :=
  match f, layout with
  | json, _ => r.json
  | list, _ => r.list
  | table, _ => r.table
  | auto, .list _ => r.list
  | auto, .table => r.table

end Format

namespace Renderer

/-- The text of a report with a layout. -/
def apply (renderer : Renderer) (layout : Layout) (r : Report) : Except OutputError String :=
  match renderer with
  | builtin f => .ok (f.present layout r)
  | custom t => (t.select layout).render r

/-- The result in the order in which it is shown. -/
def prepare (m : Matches) : Matches :=
  m.sortPlugins.sortHosts

/-- The text of a result, and the result as rendering leaves it. -/
def render (renderer : Renderer) (m : Matches) : Except OutputError String × Matches :=
  match (prepare m).resolveLayout with
  | (.error e, m) => (.error (.layout e), m)
  | (.ok layout, m) => (renderer.apply layout (.ofMatches m), m)

/-- What rendering tells: where ports differ, and which template is used. -/
def renderEvents (renderer : Renderer) (m : Matches) : List Log.Event :=
  let sorted := prepare m
  sorted.layoutEvents ++
    match renderer, sorted.resolveLayout.1 with
    | custom t, .ok layout =>
      [.debug "Rendering custom template" [("path", (t.select layout).path),
        ("list", Query.yesNo layout.isList)]]
    | _, _ => []

end Renderer

end ScanQuery
