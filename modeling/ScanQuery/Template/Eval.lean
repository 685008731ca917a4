import ScanQuery.Template.Node

/-!
What a template gives for a report. An undefined value may be given a name, asked about
(`is defined`) and replaced (`default`). Printing it, testing it, comparing it, running through it
and looking into it are errors.

Names are looked up in frames, the innermost first. Every step of a loop has a frame of its own,
so what a step sets is gone in the next one. Branches and captured blocks have none.

This is a part of the template language Jinja. The filters are `upper`, `lower`, `length` (also as
`count`) and `default` (also as `d`), the tests `defined`, `undefined` and `none`. All other filters
and tests are errors, among them `trim`, `replace`, `first`, `map` and `join`, and so is every call
of a function such as `range`. A template that uses them gives no text here, although the language
knows them; what is shown of a result in a built-in format does not depend on templates.
-/

namespace ScanQuery.Template

/-! ### Names -/

/-- The values that names have: in the frames from the innermost to the outermost, and then in the
report. -/
structure Scope where
  report : Value
  frames : List (List (String × Value))

namespace Scope

/-- The value of a name. -/
def lookup (s : Scope) (name : String) : Value :=
  match s.frames.findSome? fun frame => frame.lookup name with
  | some v => v
  | none =>
    match s.report with
    | .map fields => (fields.lookup name).getD .missing
    | _ => .missing

/-- The scope with a value for a name in its innermost frame. -/
def assign (s : Scope) (name : String) (v : Value) : Scope :=
  match s.frames with
  | [] => { s with frames := [[(name, v)]] }
  | frame :: outer => { s with frames := ((name, v) :: frame) :: outer }

/-- The scope with a frame inside the others. -/
def push (s : Scope) (frame : List (String × Value)) : Scope :=
  { s with frames := frame :: s.frames }

end Scope

/-! ### Operators, filters and tests -/

/-- Whether a comparison holds between two values. -/
def Comparison.holds (op : Comparison) (v w : Value) : Except Fault Bool := do
  let v ← v.required
  let w ← w.required
  match op with
  | .equal => return v.same w
  | .notEqual => return !v.same w
  | .less => return v.order w == .lt
  | .lessOrEqual => return v.order w != .gt
  | .greater => return v.order w == .gt
  | .greaterOrEqual => return v.order w != .lt
  | .isIn => v.occursIn w
  | .isNotIn => return !(← v.occursIn w)

/-- The result of an operator on two values. Of `and` and `or` it is the right one, which is asked
for only when the left one does not decide. `/` has none, as it would be a fraction. -/
def BinaryOp.apply (op : BinaryOp) (v w : Value) : Except Fault Value := do
  match op with
  | .and => return w
  | .or => return w
  | .add => (← v.required).add (← w.required)
  | .subtract => (← v.required).subtract (← w.required)
  | .concat => return .string ((← v.required).display ++ (← w.required).display)
  | .multiply => (← v.required).multiply (← w.required)
  | .divide => .error (.badOperand "/")
  | .quotient => (← v.required).quotient (← w.required)
  | .remainder => (← v.required).remainder (← w.required)
  | .power => (← v.required).power (← w.required)

/-- Whether the second argument of `default` asks to replace whatever counts as false, too. -/
def replacesFalse : List Value → Except Fault Bool
  | [] => .ok false
  | [.bool b] => .ok b
  | [.null] => .ok false
  | _ => .error (.badOperand "default")

/-- A value, or what replaces it. -/
def replaced (v : Value) (arguments : List Value) : Except Fault Value := do
  let always ← replacesFalse arguments.tail
  let other := arguments.head?.getD (.string "")
  if v.isUndefined then return other
  else if always then return if ← v.truthy then v else other
  else return v

/-- The result of a filter. -/
def applyFilter (name : String) (v : Value) (arguments : List Value) : Except Fault Value :=
  if name = "upper" ∧ arguments.isEmpty then do
    return .string (Text.upper (← v.required).display)
  else if name = "lower" ∧ arguments.isEmpty then do
    return .string (Text.lower (← v.required).display)
  else if (name = "length" ∨ name = "count") ∧ arguments.isEmpty then v.length
  else if name = "default" ∨ name = "d" then replaced v arguments
  else .error (.unknownFilter name)

/-- The answer of a test. -/
def applyTest (name : String) (v : Value) (arguments : List Value) : Except Fault Bool :=
  if !arguments.isEmpty then .error (.badOperand name)
  else if name = "defined" then .ok !v.isUndefined
  else if name = "undefined" then .ok v.isUndefined
  else if name = "none" then
    match v with
    | .null => .ok true
    | _ => .ok false
  else .error (.unknownTest name)

/-! ### Expressions -/

mutual

/-- The value of an expression. -/
def Expr.eval (s : Scope) : Expr → Except Fault Value
  | .literal v => .ok v
  | .valueless => .error .noValue
  | .variable name => .ok (s.lookup name)
  | .list es => do return .list false (← Expr.evalAll s es)
  | .map entries => do return .map (← Expr.evalEntries s [] entries)
  | .field e name => do (← e.eval s).field name
  | .item e index => do (← e.eval s).item (← index.eval s)
  | .slice e start stop step => do
    (← e.eval s).slice (← start.eval s) (← stop.eval s) (← step.eval s)
  | .filter e name arguments => do
    applyFilter name (← e.eval s) (← Expr.evalAll s arguments)
  | .test e name arguments => do
    return .bool (← applyTest name (← e.eval s) (← Expr.evalAll s arguments))
  | .not e => do return .bool (!(← (← e.eval s).truthy))
  | .negate e => do (← e.eval s).negate
  | .binary op left right => do
    let v ← left.eval s
    match op with
    | .and => if ← v.truthy then right.eval s else return v
    | .or => if ← v.truthy then return v else right.eval s
    | op => op.apply v (← right.eval s)
  | .chain first links => do
    return .bool (← Expr.evalLinks s (← first.eval s) links)
  | .choice condition yes no => do
    if ← (← condition.eval s).truthy then yes.eval s
    else
      match no with
      | some no => no.eval s
      | none => return .undefined true

/-- Whether the links of a chain of comparisons hold from a value on. What stands behind a link
that does not hold is not looked at. -/
def Expr.evalLinks (s : Scope) (v : Value) : List (Comparison × Expr) → Except Fault Bool
  | [] => .ok true
  | (op, e) :: links => do
    let w ← e.eval s
    if ← op.holds v w then Expr.evalLinks s w links else return false

/-- The values of some expressions. -/
def Expr.evalAll (s : Scope) : List Expr → Except Fault (List Value)
  | [] => .ok []
  | e :: es => do return (← e.eval s) :: (← Expr.evalAll s es)

/-- Fields together with those that some entries add, whose keys must be texts. -/
def Expr.evalEntries (s : Scope) (fields : List (String × Value)) :
    List (Expr × Expr) → Except Fault (List (String × Value))
  | [] => .ok fields
  | (key, e) :: entries => do
    match ← key.eval s with
    | .string key => Expr.evalEntries s (Value.assignField key (← e.eval s) fields) entries
    | _ => .error (.badOperand "key")

end

/-! ### Nodes -/

mutual

/-- The scope in which a target has a value. Targets that share a value get one of its parts
each. -/
def Scope.bind (s : Scope) : Target → Value → Except Fault Scope
  | .name name, v => .ok (s.assign name v)
  | .part, _ => .error (.badOperand "=")
  | .each targets, v => do s.bindAll targets (← v.parts)

/-- The scope in which targets have one value each. -/
def Scope.bindAll (s : Scope) : List Target → List Value → Except Fault Scope
  | [], [] => .ok s
  | target :: targets, v :: vs => do (← s.bind target v).bindAll targets vs
  | _, _ => .error (.badOperand "=")

end

/-- The values of a loop for which its condition holds, and how many there are if that is known
beforehand. -/
def admitted (s : Scope) (target : Target) (condition : Option Expr)
    (found : List Value × Option Nat) : Except Fault (List Value × Option Nat) :=
  match condition with
  | none => .ok found
  | some condition => do
    let vs ← found.1.filterM fun v => do
      (← condition.eval (← (s.push []).bind target v)).truthy
    return (vs, some vs.length)

/-- What a loop tells in one of its steps. -/
def stepLoop (vs : List Value) (count : Option Nat) (index : Nat) : Value :=
  let before := if index = 0 then Value.missing else (vs[index - 1]?).getD .missing
  let after := (vs[index + 1]?).getD .missing
  .loop index count before after

/-- The text with a chain of filters applied to it. -/
def applyFilters (s : Scope) (v : Value) :
    List (String × List Expr) → Except Fault Value
  | [] => .ok v
  | (name, arguments) :: filters => do
    applyFilters s (← applyFilter name v (← Expr.evalAll s arguments)) filters

mutual

/-- The scope after a node, and the text of the node. -/
def Node.eval (s : Scope) : Node → Except Fault (Scope × String)
  | .text content => .ok (s, content)
  | .output e => do return (s, (← (← e.eval s).required).display)
  | .loop target source condition body otherwise => do
    let (vs, count) ← admitted s target condition (← (← source.eval s).elements)
    if vs.isEmpty then Node.evalAll s otherwise
    else
      let shown ← vs.zipIdx.foldlM (fun shown (v, index) => do
        let inside ← (s.push [("loop", stepLoop vs count index)]).bind target v
        let (_, more) ← Node.evalAll inside body
        return shown ++ more) ""
      return (s, shown)
  | .branch condition yes no => do
    if ← (← condition.eval s).truthy then Node.evalAll s yes else Node.evalAll s no
  | .set target e => do return (← s.bind target (← e.eval s), "")
  | .capture target body filters => do
    let (s, shown) ← Node.evalAll s body
    return (← s.bind target (← applyFilters s (.string shown) filters), "")

/-- The scope after some nodes, and their text. -/
def Node.evalAll (s : Scope) : List Node → Except Fault (Scope × String)
  | [] => .ok (s, "")
  | n :: ns => do
    let (s, shown) ← n.eval s
    let (s, more) ← Node.evalAll s ns
    return (s, shown ++ more)

end

/-- The text that a template gives for a report. -/
def render (source : String) (report : Json) : Except Fault String := do
  let nodes ← Node.parse source
  let (_, shown) ← Node.evalAll ⟨.ofJson report, [[]]⟩ nodes
  return shown

end ScanQuery.Template
