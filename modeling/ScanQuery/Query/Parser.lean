import ScanQuery.Log.Event
import ScanQuery.Query.Lexical

/-!
Reading queries. Every text is a query: a clause that makes no sense becomes a condition that
never holds and is reported. `parse` gives the query, `parseEvents` what is told about it: a
warning about parentheses, a note for each group and each clause, and one warning for each clause
that can never hold.
-/

namespace ScanQuery.Query

/-- The condition written in a clause text without negation. -/
def Condition.parse (body : String) : Condition :=
  match splitOperator? body with
  | none => .unsupported .missingOperator
  | some (keyText, comparison, values) =>
    let keyword := Text.lower (Text.trim keyText)
    match Key.ofKeyword? keyword with
    | none => .unsupported (.unknownKey keyword)
    | some key =>
      if comparison.isOrdinal then
        match key with
        | .severity => .severity comparison [Severity.ofCode (Text.trim values)]
        | key => .unsupported (.ordinalOperator key comparison)
      else
        match key with
        | .pluginId => .pluginId (splitValues values)
        | .pluginName => .pluginName (splitValues values)
        | .port => .port (splitValues values)
        | .ip => .ip (splitValues values)
        | .severity => .severity .equals ((splitValues values).map Severity.ofCode)

/-- The clause written in a text. -/
def Clause.parse (text : String) : Clause :=
  let trimmed := Text.trim text
  let (negated, body) := splitNegation trimmed
  ⟨negated, Condition.parse (Text.trim body), trimmed⟩

/-- The query written in a text. -/
def parse (text : String) : Query :=
  ⟨text, (splitGroups text).map fun clauses => clauses.map Clause.parse⟩

/-! ### Events -/

/-- The spelling of a truth value in events. -/
def yesNo (b : Bool) : String :=
  if b then "true" else "false"

/-- The note about a clause. -/
def Clause.event (c : Clause) : Log.Event :=
  .debug "Clause" [("text", c.text), ("negated", yesNo c.negated),
    ("supported", yesNo c.condition.unsupported?.isNone)]

/-- The notes about the group at a place, counted from zero, and about its clauses. -/
def groupEvents (index : Nat) (clauses : List String) : List Log.Event :=
  .debug "Or-group" [("index", toString (index + 1)), ("text", andSeparator.intercalate clauses)]
    :: clauses.map fun c => (Clause.parse c).event

/-- The code of the warning about a clause that can never hold. -/
def Unsupported.code : Unsupported → Log.Code
  | .unknownKey _ => Log.Code.unknownKey
  | _ => Log.Code.malformedClause

/-- The warning about a clause that can never hold. -/
def deadClauseEvent (c : Clause) (why : Unsupported) : Log.Event :=
  .warningWithCode why.code "Clause can never match" [("clause", c.text), ("reason", why.reason)]

/-- What reading a query tells. -/
def parseEvents (text : String) : List Log.Event :=
  (if hasParenthesis text then
    [.warningWithCode Log.Code.unsupportedSyntax
      "Parentheses are not grouping operators and are matched literally" [("query", text)]]
    else []) ++
  (splitGroups text).zipIdx.flatMap (fun (clauses, index) => groupEvents index clauses) ++
  (parse text).deadClauses.map fun (c, why) => deadClauseEvent c why

end ScanQuery.Query
