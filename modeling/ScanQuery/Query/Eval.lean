import ScanQuery.Host
import ScanQuery.Query.Syntax
import ScanQuery.Text.Split

/-!
What a query says about a finding. A condition is a disjunction over its values, a clause a
condition that may be negated, a group the conjunction of its clauses and a query the disjunction
of its groups. A condition that was not understood never holds, so its negation always does.
-/

namespace ScanQuery

/-- A finding together with the address and the port it was reported on. -/
structure Sighting where
  ip : String
  port : String
  finding : Finding
  deriving DecidableEq, Repr

namespace Query

/-- Whether an attribute of the finding is among the values of a condition, or in the relation
to one of them that the condition asks for. -/
def Condition.holds (s : Sighting) : Condition → Bool
  | .pluginId ids => ids.any fun id => Text.equalIgnoringAsciiCase id (Text.trim s.finding.pluginId)
  | .pluginName parts =>
    parts.any fun part => Text.contains (Text.lower s.finding.pluginName) (Text.lower part)
  | .severity comparison levels =>
    levels.any fun level => comparison.compare s.finding.ordinal level.ordinal
  | .port ports => ports.any (· = Port.segment s.port)
  | .ip addresses => addresses.any fun ip => Text.equalIgnoringAsciiCase ip s.ip
  | .unsupported _ => false

/-- Whether the condition holds, or does not hold when the clause is negated. -/
def Clause.holds (s : Sighting) (c : Clause) : Bool :=
  c.condition.holds s != c.negated

/-- Whether all clauses of one group hold. -/
def holds (q : Query) (s : Sighting) : Bool :=
  q.groups.any fun group => group.all (Clause.holds s)

end Query

end ScanQuery
