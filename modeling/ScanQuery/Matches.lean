import ScanQuery.Address
import ScanQuery.Collection
import ScanQuery.Query.Eval
import ScanQuery.Query.Parser

/-!
The result of a query: the findings that it selects, in a collection of their own, and the
plugins they come from, each once. The result is built one finding at a time, in the order of the
host keys, the port-keys and the reports. Orders for display are applied later: `sortPlugins` and
`sortHosts` change how a result is shown and not what it holds.
-/

namespace ScanQuery

/-- When a query was run, and its text. -/
structure Header where
  time : String
  query : String
  deriving DecidableEq, Repr

/-- The findings that a query selects, and what is needed to show them. -/
structure Matches where
  header : Header
  plugins : List Plugin
  collection : Collection
  sortedKeys : List String
  sharedPorts : List String
  deriving DecidableEq

namespace Matches

/-- The result without findings. -/
def new (time query : String) : Matches :=
  ⟨⟨time, query⟩, [], .empty, [], []⟩

/-- The result with a finding under its host and port. -/
def addFinding (m : Matches) (ip : String) (fqdn : Option String) (port : String)
    (f : Finding) : Matches :=
  { m with collection := m.collection.addFinding ip fqdn port f }

/-- The result with the plugin of a finding in its summary. -/
def addPlugin (m : Matches) (f : Finding) : Matches :=
  { m with plugins := Plugin.addNew m.plugins f.plugin }

/-- The result with its counts set to what it holds. -/
def updateCounts (m : Matches) : Matches :=
  { m with collection := m.collection.updateCounts }

/-- Whether the counts know of no host. -/
def isEmpty (m : Matches) : Bool :=
  m.collection.counts.hosts = 0

/-- Whether the summary has a plugin with an id. -/
def hasPlugin (m : Matches) (id : String) : Bool :=
  m.plugins.any (·.id = id)

/-- The result with the most severe plugins first. -/
def sortPlugins (m : Matches) : Matches :=
  { m with plugins := Plugin.sortBySeverity m.plugins }

/-- The result with its host keys listed in the order of addresses. -/
def sortHosts (m : Matches) : Matches :=
  { m with sortedKeys := Address.sort m.collection.hosts.keys }

/-- The hosts in the order of the sorted keys; a key without a host is passed over. -/
def sortedHosts (m : Matches) : List Host :=
  m.sortedKeys.filterMap m.collection.host?

end Matches

/-! ### Running a query -/

/-- Every finding with its host and port-key, in the order in which a query looks at them. -/
def Collection.located (c : Collection) : List (Host × String × Finding) :=
  c.hosts.values.flatMap fun h => h.located.map fun (port, f) => (h, port, f)

/-- Whether a query selects a finding of a host. -/
def Query.selects (q : Query) (found : Host × String × Finding) : Bool :=
  q.holds ⟨found.1.ip, found.2.1, found.2.2⟩

/-- The result with one more finding of a host. -/
def Matches.add (m : Matches) (found : Host × String × Finding) : Matches :=
  (m.addFinding found.1.ip found.1.fqdn found.2.1 found.2.2).addPlugin found.2.2

/-- The findings of a collection that a query selects. -/
def Query.evaluate (q : Query) (time : String) (c : Collection) : Matches :=
  ((c.located.filter q.selects).foldl Matches.add (.new time q.text)).updateCounts

/-- What running a query tells about its result. -/
def Matches.events (m : Matches) : List Log.Event :=
  let counts := m.collection.counts
  [.debug "Matched hosts" [("count", toString counts.hosts)],
    .debug "Matched ports" [("count", toString counts.ports)],
    .debug "Matched findings" [("count", toString counts.findings)],
    .success Log.Code.queryEvaluated "Query evaluated"
      [("query", m.header.query), ("hosts", toString counts.hosts),
        ("plugins", toString m.plugins.length)]]

/-- The result of the query written in a text. -/
def runQuery (time text : String) (c : Collection) : Matches :=
  (Query.parse text).evaluate time c

/-- What reading and running a query tells. -/
def runQueryEvents (time text : String) (c : Collection) : List Log.Event :=
  let q := Query.parse text
  Query.parseEvents text ++
    .debug "Running query" [("query", text), ("or_groups", toString q.groups.length),
      ("clauses", toString q.clauses.length)] ::
    (q.evaluate time c).events

end ScanQuery
