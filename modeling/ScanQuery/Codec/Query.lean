import ScanQuery.Json.Decode
import ScanQuery.Query.Syntax

/-!
The JSON form of queries. A record is an object with a field for each part. A choice is an object
whose only field is named for the case and holds what the case holds; a case that holds nothing is
its name alone.
-/

namespace ScanQuery

/-- The JSON form of a severity: its code. -/
def Severity.toJson (s : Severity) : Json :=
  .string s.code

/-- The severity that a JSON value stands for. -/
def Severity.ofJson? (v : Json) : Option Severity :=
  v.text?.map Severity.ofCode

namespace Query

/-! ### Attributes and operators -/

/-- The name of an attribute. -/
def Key.name : Key → String
  | .pluginId => "PluginId"
  | .pluginName => "PluginName"
  | .severity => "Severity"
  | .port => "Port"
  | .ip => "Ip"

/-- The JSON form of an attribute. -/
def Key.toJson (k : Key) : Json :=
  .string k.name

/-- The attribute that a JSON value stands for. -/
def Key.ofJson? (v : Json) : Option Key :=
  v.text?.bind fun name => Key.all.find? (·.name = name)

/-- The name of an operator. -/
def Comparison.name : Comparison → String
  | .equals => "Equals"
  | .lessThan => "LessThan"
  | .lessThanOrEqual => "LessThanOrEqual"
  | .greaterThan => "GreaterThan"
  | .greaterThanOrEqual => "GreaterThanOrEqual"

/-- The JSON form of an operator. -/
def Comparison.toJson (c : Comparison) : Json :=
  .string c.name

/-- The operator that a JSON value stands for. -/
def Comparison.ofJson? (v : Json) : Option Comparison :=
  v.text?.bind fun name => Comparison.detectionOrder.find? (·.name = name)

/-! ### Conditions -/

/-- The JSON form of a reason. -/
def Unsupported.toJson : Unsupported → Json
  | .missingOperator => .string "MissingOperator"
  | .unknownKey keyword => .object [("UnknownKey", .string keyword)]
  | .ordinalOperator key comparison =>
    .object [("OrdinalOperator",
      .object [("key", key.toJson), ("comparison", comparison.toJson)])]

/-- The reason that a JSON value stands for. -/
def Unsupported.ofJson? : Json → Option Unsupported
  | .string name => if name = "MissingOperator" then some .missingOperator else none
  | .object [(name, v)] =>
    if name = "UnknownKey" then v.text?.map .unknownKey
    else if name = "OrdinalOperator" then do
      let key ← v.required? "key" Key.ofJson?
      let comparison ← v.required? "comparison" Comparison.ofJson?
      return .ordinalOperator key comparison
    else none
  | _ => none

/-- The JSON form of a condition. -/
def Condition.toJson : Condition → Json
  | .pluginId ids => .object [("PluginId", .texts ids)]
  | .pluginName parts => .object [("PluginName", .texts parts)]
  | .severity comparison levels =>
    .object [("Severity", .object [("comparison", comparison.toJson),
      ("levels", .array (levels.map Severity.toJson))])]
  | .port ports => .object [("Port", .texts ports)]
  | .ip addresses => .object [("Ip", .texts addresses)]
  | .unsupported why => .object [("Unsupported", why.toJson)]

/-- The condition that a JSON value stands for. -/
def Condition.ofJson? : Json → Option Condition
  | .object [(name, v)] =>
    let texts := v.list? Json.text?
    if name = "PluginId" then texts.map .pluginId
    else if name = "PluginName" then texts.map .pluginName
    else if name = "Severity" then do
      let comparison ← v.required? "comparison" Comparison.ofJson?
      let levels ← v.required? "levels" (Json.list? Severity.ofJson?)
      return .severity comparison levels
    else if name = "Port" then texts.map .port
    else if name = "Ip" then texts.map .ip
    else if name = "Unsupported" then (Unsupported.ofJson? v).map .unsupported
    else none
  | _ => none

/-! ### Clauses, groups and queries -/

/-- The JSON form of a clause. -/
def Clause.toJson (c : Clause) : Json :=
  .object [("negated", .bool c.negated), ("condition", c.condition.toJson),
    ("text", .string c.text)]

/-- The clause that a JSON value stands for. -/
def Clause.ofJson? (v : Json) : Option Clause := do
  let negated ← v.required? "negated" Json.truth?
  let condition ← v.required? "condition" Condition.ofJson?
  let text ← v.required? "text" Json.text?
  return ⟨negated, condition, text⟩

/-- The JSON form of a group. -/
def groupToJson (clauses : List Clause) : Json :=
  .object [("clauses", .array (clauses.map Clause.toJson))]

/-- The group that a JSON value stands for. -/
def groupOfJson? (v : Json) : Option (List Clause) :=
  v.required? "clauses" (Json.list? Clause.ofJson?)

/-- The JSON form of a query. -/
def toJson (q : Query) : Json :=
  .object [("text", .string q.text), ("or_groups", .array (q.groups.map groupToJson))]

/-- The query that a JSON value stands for. -/
def ofJson? (v : Json) : Option Query := do
  let text ← v.required? "text" Json.text?
  let groups ← v.required? "or_groups" (Json.list? groupOfJson?)
  return ⟨text, groups⟩

end Query

end ScanQuery
