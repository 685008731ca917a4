import ScanQuery.Codec.Query
import ScanQuery.Report

/-!
Reading reports back from their JSON form.
-/

namespace ScanQuery

/-- The plugin that a JSON value stands for. -/
def Plugin.ofJson? (v : Json) : Option Plugin := do
  let id ← v.required? "id" Json.text?
  let name ← v.required? "name" Json.text?
  let severity ← v.required? "severity" Severity.ofJson?
  return ⟨id, name, severity⟩

/-- The header that a JSON value stands for. -/
def Header.ofJson? (v : Json) : Option Header := do
  let time ← v.required? "call_time" Json.text?
  let query ← v.required? "query" Json.text?
  return ⟨time, query⟩

/-- The row that a JSON value stands for. -/
def Row.ofJson? (v : Json) : Option Row := do
  let host ← v.required? "host" Json.text?
  let affectedPorts ← v.required? "affected_ports" Json.text?
  let comment ← v.required? "comment" Json.text?
  return ⟨host, affectedPorts, comment⟩

/-- The report that a JSON value stands for. -/
def Report.ofJson? (v : Json) : Option Report := do
  let header ← v.required? "header" Header.ofJson?
  let plugins ← v.required? "matched_plugins" (Json.list? Plugin.ofJson?)
  let sharedPorts ← v.required? "all_same_ports" Json.text?
  let rows ← v.required? "finding_lines" (Json.list? Row.ofJson?)
  return ⟨header, plugins, sharedPorts, rows⟩

end ScanQuery
