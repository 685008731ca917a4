import ScanQuery.Codec.Report
import ScanQuery.Proofs.Codec.Query

/-!
Reports and their JSON text. The text that a report is written as is JSON for the report's form, and
reading it gives the same report, whatever characters stand in its texts and however many plugins
and rows it has.
-/

namespace ScanQuery

open Json (Undoes)

theorem Plugin.ofJson?_undoes : Undoes Plugin.ofJson? Plugin.toJson := by
  intro p
  have hseverity : Severity.ofJson? (.string p.severity.code) = some p.severity :=
    Severity.ofJson?_undoes p.severity
  simp [Plugin.toJson, Plugin.ofJson?, hseverity]

theorem Header.ofJson?_undoes : Undoes Header.ofJson? Header.toJson := by
  intro h
  simp [Header.toJson, Header.ofJson?]

theorem Row.ofJson?_undoes : Undoes Row.ofJson? Row.toJson := by
  intro row
  simp [Row.toJson, Row.ofJson?]

theorem Report.ofJson?_undoes : Undoes Report.ofJson? Report.toJson := by
  intro r
  simp [Report.toJson, Report.ofJson?, Header.ofJson?_undoes r.header,
    Plugin.ofJson?_undoes.list r.plugins, Row.ofJson?_undoes.list r.rows]

/-- The JSON output of a report is JSON, and the report that it is read as is the same. -/
theorem Report.json_read_back (r : Report) :
    Json.IsText r.json r.toJson ∧ (Json.parse? r.json).bind Report.ofJson? = some r :=
  ⟨Json.isText_pretty r.toJson, (Report.ofJson?_undoes.bind_parse? r).2⟩

end ScanQuery
