import ScanQuery.Finding
import ScanQuery.KeyMap
import ScanQuery.Port

/-!
Hosts: an address, a name where one is known, and the findings of each port in the order in which
they were reported.
-/

namespace ScanQuery

/-- A scanned host. -/
structure Host where
  ip : String
  fqdn : Option String
  findings : KeyMap (List Finding)
  deriving DecidableEq

namespace Host

/-- A host without findings. -/
def new (ip : String) (fqdn : Option String) : Host :=
  ⟨ip, fqdn, .empty⟩

/-- The host with one more finding on a port. -/
def addFinding (h : Host) (port : String) (f : Finding) : Host :=
  { h with findings := h.findings.alter port fun present => present.getD [] ++ [f] }

/-- The address, with the name in parentheses when there is one. -/
def displayName (h : Host) : String :=
  match h.fqdn with
  | none => h.ip
  | some name => if name.isEmpty then h.ip else h.ip ++ " (" ++ name ++ ")"

/-- The ports with an entry, in the order of ports. -/
def affectedPorts (h : Host) : List String :=
  Port.sortKeys h.findings.keys

/-- Every finding with its port, in the order of the port-keys' texts. -/
def located (h : Host) : List (String × Finding) :=
  h.findings.entries.flatMap fun (port, findings) => findings.map fun f => (port, f)

/-- The number of ports with an entry. -/
def portCount (h : Host) : Nat :=
  h.findings.size

/-- The number of findings. -/
def findingCount (h : Host) : Nat :=
  h.findings.total List.length

end Host

end ScanQuery
