import ScanQuery.Template.Target

/-!
The structure of a template: text, expressions that are printed, loops, branches and variables.
Loops and branches hold the pieces between their tags. `Node.ofPieces` finds that structure; the
tag that ends a run of nodes is handed back to what the run belongs to. Every tag takes a level of
nesting for what is inside it.

The tags are `for`, `if` and `set`, each with the tags that belong to it. The others of the language
are left out and are errors here: `with`, `macro`, `call`, `filter`, `do`, `autoescape`, and those
that need another template, `block`, `extends`, `include` and `import`.
-/

namespace ScanQuery.Template

/-- A part of a template. -/
inductive Node where
  | text (content : String)
  | output (value : Expr)
  | loop (target : Target) (source : Expr) (condition : Option Expr) (body otherwise : List Node)
  | branch (condition : Expr) (yes no : List Node)
  | set (target : Target) (value : Expr)
  | capture (target : Target) (body : List Node) (filters : List (String × List Expr))
  deriving Inhabited

namespace Node

/-- The names of tags that end a run of nodes. -/
def closingNames : List String :=
  ["elif", "else", "endif", "endfor", "endset"]

/-- Target, source and condition of a loop. The word `recursive` at the end changes nothing but
what calls may do. -/
def loopHead (room : Nat) (ts : List Token) : Except Fault (Target × Expr × Option Expr) := do
  let (target, ts) ← Target.leading false ts
  let (source, ts) ← Expr.leadingChoiceless room (← Token.expect (.name "in") ts)
  let (condition, ts) ←
    match ts with
    | .name "if" :: ts => do
      let (condition, ts) ← Expr.leading room ts
      pure (some condition, ts)
    | _ => pure (none, ts)
  if ts = [] ∨ ts = [.name "recursive"] then return (target, source, condition)
  else .error (.unexpected "token in a loop")

/-- Nodes up to a tag that ends their run, that tag, and the pieces behind it. -/
abbrev Run := List Node × Option (List Token) × List Piece

mutual

/-- The nodes that pieces begin with, where so many levels are left. -/
def run : Nat → Nat → List Piece → Except Fault Run
  | 0, _, _ => .error .unexpectedEnd
  | _ + 1, _, [] => .ok ([], none, [])
  | fuel + 1, room, .text content :: ps => do
    let (nodes, stop, rest) ← run fuel room ps
    return (.text content :: nodes, stop, rest)
  | fuel + 1, room, .output tokens :: ps => do
    let value ← Expr.ofTokens room tokens
    let (nodes, stop, rest) ← run fuel room ps
    return (.output value :: nodes, stop, rest)
  | fuel + 1, room, .tag tokens :: ps =>
    match tokens with
    | .name name :: inside =>
      if closingNames.contains name then .ok ([], some tokens, ps)
      else do
        let (node, ps) ← block fuel room name inside ps
        let (nodes, stop, rest) ← run fuel room ps
        return (node :: nodes, stop, rest)
    | _ => .error (.unexpected "token in a tag")

/-- The node of a tag, and the pieces behind all that belongs to it. -/
def block : Nat → Nat → String → List Token → List Piece → Except Fault (Node × List Piece)
  | 0, _, _, _, _ => .error .unexpectedEnd
  | _, 0, _, _, _ => .error .tooDeep
  | fuel + 1, room + 1, name, tokens, ps =>
    if name = "for" then do
      let (target, source, condition) ← loopHead room tokens
      let (body, stop, ps) ← run fuel room ps
      match stop with
      | some [.name "endfor"] => return (.loop target source condition body [], ps)
      | some [.name "else"] =>
        let (otherwise, stop, ps) ← run fuel room ps
        if stop = some [.name "endfor"] then
          return (.loop target source condition body otherwise, ps)
        else .error (.unexpected "end of a loop")
      | _ => .error (.unexpected "end of a loop")
    else if name = "if" then branchOf fuel room tokens ps
    else if name = "set" then do
      let (target, rest) ← Target.leading true tokens
      match rest with
      | .symbol "=" :: value => return (.set target (← Expr.ofTokens room value), ps)
      | [] => captureOf fuel room target [] ps
      | .symbol "|" :: rest => captureOf fuel room target (← Expr.filtersOfTokens room rest) ps
      | _ => .error (.unexpected "token in an assignment")
    else .error (.unknownTag name)

/-- The capture of what stands up to the end of the tag. -/
def captureOf : Nat → Nat → Target → List (String × List Expr) → List Piece →
    Except Fault (Node × List Piece)
  | 0, _, _, _, _ => .error .unexpectedEnd
  | fuel + 1, room, target, filters, ps => do
    let (body, stop, ps) ← run fuel room ps
    if stop = some [.name "endset"] then return (.capture target body filters, ps)
    else .error (.unexpected "end of a captured block")

/-- A branch with its condition and all that belongs to it. A condition holds no choice, which
would begin with the same word. -/
def branchOf : Nat → Nat → List Token → List Piece → Except Fault (Node × List Piece)
  | 0, _, _, _ => .error .unexpectedEnd
  | fuel + 1, room, tokens, ps => do
    let condition ← Expr.choiceless room tokens
    let (yes, stop, ps) ← run fuel room ps
    match stop with
    | some [.name "endif"] => return (.branch condition yes [], ps)
    | some (.name "elif" :: tokens) =>
      let (no, ps) ← branchOf fuel room tokens ps
      return (.branch condition yes [no], ps)
    | some [.name "else"] =>
      let (no, stop, ps) ← run fuel room ps
      if stop = some [.name "endif"] then return (.branch condition yes no, ps)
      else .error (.unexpected "end of a branch")
    | _ => .error (.unexpected "end of a branch")

end

/-- The nodes that pieces make up; a tag that ends nothing is an error. -/
def ofPieces (ps : List Piece) : Except Fault (List Node) := do
  let (nodes, stop, _) ← run (3 * ps.length + 1) nestingLimit ps
  match stop with
  | none => return nodes
  | some _ => .error (.unexpected "end of a block")

/-- The nodes of a template's text. -/
def parse (source : String) : Except Fault (List Node) := do
  ofPieces (← piecesOf source)

end Node

end ScanQuery.Template
