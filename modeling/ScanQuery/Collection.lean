import ScanQuery.Host

/-!
Collections: the hosts of one or more scans under their keys, and every plugin seen, each once.
Three counts are kept beside the hosts. They are set by `updateCounts` and by nothing else, so a
collection that is still being filled shows the counts of an earlier moment.
-/

namespace ScanQuery

/-- Numbers of hosts, of ports over all hosts, and of findings. -/
structure Counts where
  hosts : Nat
  ports : Nat
  findings : Nat
  deriving DecidableEq, Repr

/-- The hosts and plugins of a set of scans. -/
structure Collection where
  hosts : KeyMap Host
  plugins : List Plugin
  counts : Counts
  deriving DecidableEq

namespace Collection

/-- The collection without hosts. -/
def empty : Collection :=
  ⟨.empty, [], ⟨0, 0, 0⟩⟩

/-- The host under a key. -/
def host? (c : Collection) (ip : String) : Option Host :=
  c.hosts.get? ip

/-- The host under a key, or a new one of that address. -/
def hostOrNew (c : Collection) (ip : String) : Host :=
  (c.host? ip).getD (.new ip none)

/-- The collection with a host under a key. -/
def setHost (c : Collection) (ip : String) (h : Host) : Collection :=
  { c with hosts := c.hosts.insert ip h }

/-- The collection with a finding on a port of a host; a host that is not yet there is added with
the name given. -/
def addFinding (c : Collection) (ip : String) (fqdn : Option String) (port : String)
    (f : Finding) : Collection :=
  { c with hosts := c.hosts.alter ip fun h => (h.getD (.new ip fqdn)).addFinding port f }

/-- The plugin with an id. -/
def plugin? (c : Collection) (id : String) : Option Plugin :=
  c.plugins.find? (·.id = id)

/-- Whether registering a plugin would add it. -/
def isNewPlugin (c : Collection) (id : String) : Bool :=
  (c.plugin? id).isNone

/-- The collection with a plugin in its list, unless its id is there already. -/
def registerPlugin (c : Collection) (id name rawSeverity : String) : Collection :=
  if c.isNewPlugin id then
    { c with plugins := c.plugins ++ [⟨id, name, Severity.ofReport rawSeverity⟩] }
  else c

/-- The numbers of hosts, ports and findings held. -/
def actualCounts (c : Collection) : Counts :=
  ⟨c.hosts.size, c.hosts.total Host.portCount, c.hosts.total Host.findingCount⟩

/-- The collection with counts of what it holds. -/
def updateCounts (c : Collection) : Collection :=
  { c with counts := c.actualCounts }

/-- Every plugin, the most severe first. -/
def listPlugins (c : Collection) : List Plugin :=
  Plugin.sortBySeverity c.plugins

end Collection

/-- The plugins of a list whose ids do not occur among the matched ones, the most severe first. -/
def Plugin.unmatched (matched plugins : List Plugin) : List Plugin :=
  sortBySeverity (plugins.filter fun p => !matched.any (·.id = p.id))

end ScanQuery
