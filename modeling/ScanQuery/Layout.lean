import ScanQuery.Matches

/-!
The layout of a result. When every host has the same affected ports they are named once and the
hosts are listed; otherwise a table shows the ports of each host. The ports of the first host in
the order of addresses are what the others are compared with.
-/

namespace ScanQuery

/-- The two ways to lay a result out. -/
inductive Layout where
  | list (ports : List String)
  | table
  deriving DecidableEq, Repr

/-- Whether hosts are listed. -/
def Layout.isList : Layout → Bool
  | list _ => true
  | table => false

/-- Why a result has no layout. -/
inductive LayoutError where
  | noMatchedHosts (query : String)
  | missingHost (ip : String)
  deriving DecidableEq, Repr

/-- The error in words. -/
def LayoutError.message : LayoutError → String
  | noMatchedHosts query => "No hosts matched query '" ++ query ++ "'"
  | missingHost ip => "Matched host '" ++ ip ++ "' is missing from the result collection"

namespace Matches

/-- The result with its host keys sorted, when their number differs from that of the hosts. -/
def ensureSorted (m : Matches) : Matches :=
  if m.sortedKeys.length = m.collection.hosts.size then m else m.sortHosts

/-- The affected ports of the host under a sorted key. -/
def portsOf (m : Matches) (ip : String) : Except LayoutError (List String) :=
  match m.collection.host? ip with
  | some h => .ok h.affectedPorts
  | none => .error (.missingHost ip)

/-- The first of some keys whose host has other affected ports than the given ones. -/
def firstOther (m : Matches) (ports : List String) :
    List String → Except LayoutError (Option String)
  | [] => .ok none
  | ip :: rest =>
    match m.portsOf ip with
    | .error e => .error e
    | .ok found => if found = ports then m.firstOther ports rest else .ok (some ip)

/-- The first sorted key and the ports of its host, and the first key with other ports. -/
def comparePorts (m : Matches) :
    Except LayoutError (String × List String × Option String) :=
  match m.sortedKeys with
  | [] => .error (.noMatchedHosts m.header.query)
  | first :: rest => do
    let ports ← m.portsOf first
    let other ← m.firstOther ports (first :: rest)
    return (first, ports, other)

/-- The layout of a result, and the result as the decision leaves it: sorted, and with the shared
ports noted where there are any. Noted ports are never taken back. -/
def resolveLayout (m : Matches) : Except LayoutError Layout × Matches :=
  let sorted := m.ensureSorted
  match sorted.comparePorts with
  | .error e => (.error e, sorted)
  | .ok (_, _, some _) => (.ok .table, sorted)
  | .ok (_, ports, none) => (.ok (.list ports), { sorted with sharedPorts := ports })

/-- What the decision tells: where the ports differ first. -/
def layoutEvents (m : Matches) : List Log.Event :=
  match m.ensureSorted.comparePorts with
  | .ok (first, _, some other) =>
    [.debug "Affected ports differ between hosts, using table output"
      [("reference", first), ("host", other)]]
  | _ => []

end Matches

end ScanQuery
