import ScanQuery.Json.Basic
import ScanQuery.Matches

/-!
Reports: a result as it is shown, one row for each host in the order of the sorted keys. Every
built-in output is made from a report, and templates see nothing else.
-/

namespace ScanQuery

/-- What is shown of a host. -/
structure Row where
  host : String
  affectedPorts : String
  comment : String
  deriving DecidableEq, Repr

/-- A result ready to be shown. -/
structure Report where
  header : Header
  plugins : List Plugin
  sharedPorts : String
  rows : List Row
  deriving DecidableEq, Repr

/-- What stands between two ports. -/
def portSeparator : String := ", "

namespace Row

/-- A port and the plugins of its findings, as in `80/tcp:1,2`. -/
def portComment (h : Host) (port : String) : String :=
  port ++ ":" ++ ",".intercalate (((h.findings.get? port).getD []).map (·.pluginId))

/-- The row of a host. -/
def ofHost (h : Host) : Row where
  host := h.displayName
  affectedPorts := portSeparator.intercalate h.affectedPorts
  comment := "|".intercalate (h.affectedPorts.map (portComment h))

end Row

namespace Report

/-- The report of a result as it stands. -/
def ofMatches (m : Matches) : Report where
  header := m.header
  plugins := m.plugins
  sharedPorts := portSeparator.intercalate m.sharedPorts
  rows := m.sortedHosts.map Row.ofHost

/-! ### Text -/

/-- The lines of a text, each ended by a line feed. -/
def text (lines : List String) : String :=
  lines.foldr (fun line rest => line ++ "\n" ++ rest) ""

/-- The query and the time, and an empty line. -/
def headerLines (r : Report) : List String :=
  ["Query: " ++ r.header.query, "Time:  " ++ r.header.time, ""]

/-- The plugins, one a line, and an empty line. -/
def pluginLines (r : Report) : List String :=
  "Plugins:" :: (r.plugins.map fun p =>
    "- [" ++ p.severity.label ++ "] " ++ p.id ++ " - " ++ p.name) ++ [""]

/-- The hosts: behind the ports they share, or each with its own. -/
def hostLines (r : Report) : List String :=
  if r.sharedPorts.isEmpty then
    "Hosts:" :: r.rows.map fun row => "- " ++ row.host ++ " (" ++ row.affectedPorts ++ ")"
  else
    ["Affected ports: " ++ r.sharedPorts, "", "Hosts:"] ++ r.rows.map fun row => "- " ++ row.host

/-- The report as a list of hosts. -/
def list (r : Report) : String :=
  text (r.headerLines ++ r.pluginLines ++ r.hostLines)

/-- A text in which every bar is behind a backslash, so that it does not end a cell. -/
def escapeBars (cs : List Char) : List Char :=
  cs.flatMap fun c => if c = '|' then ['\\', '|'] else [c]

/-- The content of a table cell. -/
def cell (s : String) : String :=
  String.ofList (escapeBars s.toList)

/-- The line of a row in a table. -/
def rowLine (row : Row) : String :=
  "| " ++ cell row.host ++ " | " ++ cell row.affectedPorts ++ " | " ++ cell row.comment ++ " |"

/-- The hosts as a table. -/
def tableLines (r : Report) : List String :=
  ["| Host | Affected Ports | Plugins |", "|------|----------------|---------|"] ++
    r.rows.map rowLine

/-- The report as a table. -/
def table (r : Report) : String :=
  text (r.headerLines ++ r.pluginLines ++ r.tableLines)

/-! ### JSON -/

end Report

/-- The JSON form of a plugin. -/
def Plugin.toJson (p : Plugin) : Json :=
  .object [("id", .string p.id), ("name", .string p.name), ("severity", .string p.severity.code)]

/-- The JSON form of a header. -/
def Header.toJson (h : Header) : Json :=
  .object [("call_time", .string h.time), ("query", .string h.query)]

/-- The JSON form of a row. -/
def Row.toJson (row : Row) : Json :=
  .object [("host", .string row.host), ("affected_ports", .string row.affectedPorts),
    ("comment", .string row.comment)]

namespace Report

/-- The JSON form of a report. -/
def toJson (r : Report) : Json :=
  .object [("header", r.header.toJson), ("matched_plugins", .array (r.plugins.map Plugin.toJson)),
    ("all_same_ports", .string r.sharedPorts), ("finding_lines", .array (r.rows.map Row.toJson))]

/-- The report as JSON text. -/
def json (r : Report) : String :=
  r.toJson.pretty

end Report

end ScanQuery
