import ScanQuery.Codec.Report
import ScanQuery.Layout

/-!
The JSON form of collections and results. Maps are objects with their keys in ascending order; an
output or a name that is not known is left out, an empty one is kept.
-/

namespace ScanQuery

/-- The JSON form of a finding. -/
def Finding.toJson (f : Finding) : Json :=
  .object <|
    [("plugin_id", .string f.pluginId), ("plugin_name", .string f.pluginName),
      ("severity", .string f.severity), ("description", .string f.description)] ++
    Json.optionalField "output" f.output

/-- The finding that a JSON value stands for. -/
def Finding.ofJson? (v : Json) : Option Finding := do
  let pluginId ← v.required? "plugin_id" Json.text?
  let pluginName ← v.required? "plugin_name" Json.text?
  let severity ← v.required? "severity" Json.text?
  let description ← v.required? "description" Json.text?
  let output ← v.optional? "output" Json.text?
  return ⟨pluginId, pluginName, severity, description, output⟩

/-- The JSON form of a host. -/
def Host.toJson (h : Host) : Json :=
  .object <|
    ("ip", .string h.ip) :: Json.optionalField "fqdn" h.fqdn ++
    [("findings", .object (h.findings.entries.map fun (port, findings) =>
      (port, Json.array (findings.map Finding.toJson))))]

/-- The host that a JSON value stands for. -/
def Host.ofJson? (v : Json) : Option Host := do
  let ip ← v.required? "ip" Json.text?
  let fqdn ← v.optional? "fqdn" Json.text?
  let findings ← v.required? "findings" (Json.map? (Json.list? Finding.ofJson?))
  return ⟨ip, fqdn, findings⟩

/-- The JSON form of a collection. -/
def Collection.toJson (c : Collection) : Json :=
  .object
    [("hosts", .object (c.hosts.entries.map fun (key, h) => (key, h.toJson))),
      ("all_plugins", .array (c.plugins.map Plugin.toJson)),
      ("count_matched_hosts", .number c.counts.hosts),
      ("count_matched_ports", .number c.counts.ports),
      ("count_matched_findings", .number c.counts.findings)]

/-- The collection that a JSON value stands for. -/
def Collection.ofJson? (v : Json) : Option Collection := do
  let hosts ← v.required? "hosts" (Json.map? Host.ofJson?)
  let plugins ← v.required? "all_plugins" (Json.list? Plugin.ofJson?)
  let hostCount ← v.required? "count_matched_hosts" Json.natural?
  let portCount ← v.required? "count_matched_ports" Json.natural?
  let findingCount ← v.required? "count_matched_findings" Json.natural?
  return ⟨hosts, plugins, ⟨hostCount, portCount, findingCount⟩⟩

/-- The JSON form of a result. -/
def Matches.toJson (m : Matches) : Json :=
  .object
    [("header", m.header.toJson), ("matched_plugins", .array (m.plugins.map Plugin.toJson)),
      ("collection", m.collection.toJson), ("sorted_keys", .texts m.sortedKeys),
      ("all_same_ports", .texts m.sharedPorts)]

/-- The result that a JSON value stands for. -/
def Matches.ofJson? (v : Json) : Option Matches := do
  let header ← v.required? "header" Header.ofJson?
  let plugins ← v.required? "matched_plugins" (Json.list? Plugin.ofJson?)
  let collection ← v.required? "collection" Collection.ofJson?
  let sortedKeys ← v.required? "sorted_keys" (Json.list? Json.text?)
  let sharedPorts ← v.required? "all_same_ports" (Json.list? Json.text?)
  return ⟨header, plugins, collection, sortedKeys, sharedPorts⟩

/-- The JSON form of a layout. -/
def Layout.toJson : Layout → Json
  | .list ports => .object [("mode", .string "list"), ("all_same_ports", .texts ports)]
  | .table => .object [("mode", .string "table")]

end ScanQuery
