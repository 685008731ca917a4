import ScanQuery.Template.Piece
import ScanQuery.Template.Value

/-!
Expressions of templates. From the loosest to the tightest: a choice by `if`, `or`, `and`, `not`,
comparisons, sums, concatenation, products, powers, and a sign; access to parts of a value, filters
and tests bind tightest of all. Comparisons form chains: `a > b > c` holds when `a > b` and `b > c`
do.

What can be written may be more than what has a value: numbers with a fraction, calls, and
arguments that are named or spread over several places have none, so that a template may hold them
only where they are never asked for.
-/

namespace ScanQuery.Template

/-- The operators that compare two values. -/
inductive Comparison where
  | equal
  | notEqual
  | less
  | lessOrEqual
  | greater
  | greaterOrEqual
  | isIn
  | isNotIn
  deriving DecidableEq, Repr

/-- The operators that combine two values. -/
inductive BinaryOp where
  | or
  | and
  | add
  | subtract
  | concat
  | multiply
  | divide
  | quotient
  | remainder
  | power
  deriving DecidableEq, Repr

/-- An expression. A bound that is left out of a slice is the literal `none`. -/
inductive Expr where
  | literal (value : Value)
  | valueless
  | variable (name : String)
  | list (elements : List Expr)
  | map (entries : List (Expr × Expr))
  | field (of : Expr) (name : String)
  | item (of index : Expr)
  | slice (of start stop step : Expr)
  | filter (of : Expr) (name : String) (arguments : List Expr)
  | test (of : Expr) (name : String) (arguments : List Expr)
  | not (of : Expr)
  | negate (of : Expr)
  | binary (op : BinaryOp) (left right : Expr)
  | chain (first : Expr) (links : List (Comparison × Expr))
  | choice (condition yes : Expr) (no : Option Expr)
  deriving Inhabited

/-- How deep the parts of a template may nest. -/
def nestingLimit : Nat := 150

namespace Expr

/-- The binary operators of each level, from the loosest to the tightest, by their tokens. -/
def operatorsAt : Nat → List (Token × BinaryOp)
  | 0 => [(.name "or", .or)]
  | 1 => [(.name "and", .and)]
  | 4 => [(.symbol "+", .add), (.symbol "-", .subtract)]
  | 5 => [(.symbol "~", .concat)]
  | 6 => [(.symbol "*", .multiply), (.symbol "/", .divide), (.symbol "//", .quotient),
      (.symbol "%", .remainder)]
  | 7 => [(.symbol "**", .power)]
  | _ => []

/-- The level of negation. -/
def notLevel : Nat := 2

/-- The level of comparisons. -/
def comparisonLevel : Nat := 3

/-- The level of signs, below which stand the operands. -/
def signLevel : Nat := 8

/-- The comparison at the start of tokens, and the tokens behind it. -/
def comparisonRest? : List Token → Option (Comparison × List Token)
  | .name "in" :: rest => some (.isIn, rest)
  | .name "not" :: .name "in" :: rest => some (.isNotIn, rest)
  | .symbol s :: rest =>
    ([("==", .equal), ("!=", .notEqual), ("<", .less), ("<=", .lessOrEqual), (">", .greater),
      (">=", .greaterOrEqual)].lookup s).map fun op => (op, rest)
  | _ => none

/-- The value that a name stands for by itself. -/
def constant? (name : String) : Option Value :=
  if name = "true" ∨ name = "True" then some (.bool true)
  else if name = "false" ∨ name = "False" then some (.bool false)
  else if name = "none" ∨ name = "None" then some .null
  else none

end Expr

end ScanQuery.Template
