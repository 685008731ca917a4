import ScanQuery.Query.Syntax
import ScanQuery.Text.Split

/-!
Cutting query text. A query is cut into groups at ` or ` and each group into clauses at ` and `;
the separators are matched as they stand, in lower case and with single spaces. There are no
parentheses: they are ordinary characters. A clause may begin with `not `, and its first operator
parts key and values.
-/

namespace ScanQuery.Query

/-- What stands between two groups. -/
def orSeparator : String := " or "

/-- What stands between two clauses of a group. -/
def andSeparator : String := " and "

/-- What a negated clause begins with. -/
def negation : String := "not "

/-- What stands between two values. -/
def valueSeparator : String := ","

/-- The clause texts of every group. -/
def splitGroups (text : String) : List (List String) :=
  (Text.split orSeparator text).map (Text.split andSeparator)

/-- Whether a clause text is negated, and the text behind the negation. -/
def splitNegation (text : String) : Bool × String :=
  match Text.afterStart? negation text with
  | some rest => (true, rest)
  | none => (false, text)

/-- Key, operator and values of a clause text: the first operator in the order of detection that
occurs in the text cuts it at its first occurrence. -/
def splitOperator? (text : String) : Option (String × Comparison × String) :=
  Comparison.detectionOrder.findSome? fun c =>
    (Text.splitOnce? c.token text).map fun (key, values) => (key, c, values)

/-- The values of a list, trimmed and in lower case. -/
def splitValues (text : String) : List String :=
  (Text.split valueSeparator text).map fun v => Text.lower (Text.trim v)

/-- Whether a text holds a parenthesis, to which the language gives no meaning. -/
def hasParenthesis (text : String) : Bool :=
  text.toList.any fun c => c == '(' || c == ')'

end ScanQuery.Query
