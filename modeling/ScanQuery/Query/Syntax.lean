import ScanQuery.Severity

/-!
Queries. A query is a disjunction of groups, a group a conjunction of clauses, and a clause a
condition that may be negated. A condition compares one attribute of a finding with values; the
values are alternatives. A clause that could not be understood is kept, with the reason, as a
condition that never holds.
-/

namespace ScanQuery

/-- The attribute of a finding that a clause looks at. -/
inductive Query.Key where
  | pluginId
  | pluginName
  | severity
  | port
  | ip
  deriving DecidableEq, Inhabited, Repr

/-- The operator of a clause. -/
inductive Query.Comparison where
  | equals
  | lessThan
  | lessThanOrEqual
  | greaterThan
  | greaterThanOrEqual
  deriving DecidableEq, Inhabited, Repr

namespace Query

namespace Key

/-- The attributes in the order in which they are documented. -/
def all : List Key :=
  [pluginId, pluginName, severity, port, ip]

/-- The keyword of an attribute. -/
def keyword : Key → String
  | pluginId => "pluginid"
  | pluginName => "pluginname"
  | severity => "sev"
  | port => "port"
  | ip => "ip"

/-- The attribute that a keyword names, in any ASCII case and with white space around it. -/
def ofKeyword? (text : String) : Option Key :=
  all.find? (·.keyword = Text.asciiLower (Text.trim text))

end Key

namespace Comparison

/-- The spelling of an operator. -/
def token : Comparison → String
  | equals => "="
  | lessThan => "<"
  | lessThanOrEqual => "<="
  | greaterThan => ">"
  | greaterThanOrEqual => ">="

/-- The operators in the order in which they are looked for: those of two characters come first,
so that none of them is taken for one of its parts. -/
def detectionOrder : List Comparison :=
  [lessThanOrEqual, greaterThanOrEqual, lessThan, greaterThan, equals]

/-- The operators that compare places on a scale. -/
def isOrdinal : Comparison → Bool
  | equals => false
  | _ => true

/-- Whether the relation holds between two numbers. -/
def compare (c : Comparison) (actual expected : Int) : Bool :=
  match c with
  | equals => actual = expected
  | lessThan => actual < expected
  | lessThanOrEqual => actual ≤ expected
  | greaterThan => actual > expected
  | greaterThanOrEqual => actual ≥ expected

end Comparison

/-- Why a clause can never hold. -/
inductive Unsupported where
  | missingOperator
  | unknownKey (keyword : String)
  | ordinalOperator (key : Key) (comparison : Comparison)
  deriving DecidableEq, Repr

/-- The reason in words. -/
def Unsupported.reason : Unsupported → String
  | missingOperator => "no operator"
  | unknownKey keyword => "unknown key '" ++ keyword ++ "'"
  | ordinalOperator key comparison =>
    "operator '" ++ comparison.token ++ "' is not defined for '" ++ key.keyword ++ "'"

/-- A condition on one attribute. Listed values are alternatives, in lower case. -/
inductive Condition where
  | pluginId (ids : List String)
  | pluginName (parts : List String)
  | severity (comparison : Comparison) (levels : List Severity)
  | port (ports : List String)
  | ip (addresses : List String)
  | unsupported (why : Unsupported)
  deriving DecidableEq, Repr

/-- The attribute that a condition looks at. -/
def Condition.key? : Condition → Option Key
  | pluginId _ => some .pluginId
  | pluginName _ => some .pluginName
  | severity _ _ => some .severity
  | port _ => some .port
  | ip _ => some .ip
  | unsupported _ => none

/-- The reason why a condition can never hold. -/
def Condition.unsupported? : Condition → Option Unsupported
  | unsupported why => some why
  | _ => none

/-- A condition that may be negated, with the text it was read from. -/
structure Clause where
  negated : Bool
  condition : Condition
  text : String
  deriving DecidableEq, Repr

end Query

/-- A query with its text: groups of clauses, of which one must hold altogether. -/
structure Query where
  text : String
  groups : List (List Query.Clause)
  deriving DecidableEq, Repr

namespace Query

/-- The clauses in order. -/
def clauses (q : Query) : List Clause :=
  q.groups.flatten

/-- The clauses that can never hold, each with the reason. -/
def deadClauses (q : Query) : List (Clause × Unsupported) :=
  q.clauses.filterMap fun c => c.condition.unsupported?.map fun why => (c, why)

end Query

end ScanQuery
