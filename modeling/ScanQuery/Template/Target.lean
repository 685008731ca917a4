import ScanQuery.Template.Expr.Reader

/-!
Targets of tags that give values to names: a name, or several targets among which the parts of a
value are shared out. An assignment may also be written for a part of a variable, but no part can
be given a value.
-/

namespace ScanQuery.Template

/-- What a tag assigns to. -/
inductive Target where
  | name (name : String)
  | part
  | each (targets : List Target)
  deriving Inhabited

namespace Target

/-- The names that no tag can assign to. -/
def unassignable : List String :=
  ["true", "True", "false", "False", "none", "None", "loop", "self"]

/-- A name that a tag can assign to. -/
def assignable (name : String) : Except Fault String :=
  if unassignable.contains name then .error (.unexpected ("'" ++ name ++ "'")) else .ok name

/-- Whether no further target begins here: at the end, and before what stands behind targets. -/
def endsTargets (ts : List Token) : Bool :=
  match ts.head? with
  | none => true
  | some t => t = .symbol ")" || t = .name "in"

mutual

/-- A name, a part of a variable where parts are allowed, or targets in parentheses. -/
def readOne (parts : Bool) : Nat → List Token → Except Fault (Target × List Token)
  | fuel + 1, .symbol "(" :: rest => do
    let (target, rest) ← readAll parts fuel rest
    return (target, ← Token.expect (.symbol ")") rest)
  | _, .name text :: rest => do
    let text ← assignable text
    match rest with
    | .symbol "." :: rest =>
      if parts then return (.part, (← Token.dottedNameRest rest).2)
      else .error (.unexpected "'.'")
    | _ => return (.name text, rest)
  | _, _ => .error (.unexpected "token in place of a name")

/-- Targets separated by commas. A single one with no comma behind it stands for itself. -/
def readAll (parts : Bool) : Nat → List Token → Except Fault (Target × List Token)
  | 0, _ => .error .unexpectedEnd
  | fuel + 1, ts =>
    if endsTargets ts then .ok (.each [], ts)
    else do
      let (first, rest) ← readOne parts fuel ts
      match rest with
      | .symbol "," :: rest =>
        let (others, rest) ← readMore parts fuel rest
        return (.each (first :: others), rest)
      | _ => return (first, rest)

/-- The targets behind a comma; there may be none. -/
def readMore (parts : Bool) : Nat → List Token → Except Fault (List Target × List Token)
  | 0, _ => .error .unexpectedEnd
  | fuel + 1, ts =>
    if endsTargets ts then .ok ([], ts)
    else do
      let (first, rest) ← readOne parts fuel ts
      match rest with
      | .symbol "," :: rest =>
        let (others, rest) ← readMore parts fuel rest
        return (first :: others, rest)
      | _ => return ([first], rest)

end

/-- The targets that tokens begin with. A parenthesis takes two steps of reading, anything else at
most one. -/
def leading (parts : Bool) (ts : List Token) : Except Fault (Target × List Token) :=
  readAll parts (2 * ts.length + 2) ts

end Target

end ScanQuery.Template
