import ScanQuery.Template.Expr

/-!
Expressions from tokens. Every reader gives what it has read and the tokens behind it.

Expressions nest only so deep. Every expression in parentheses, in brackets or among arguments
takes one level, and so does every operand.
-/

namespace ScanQuery.Template

/-! ### Tokens -/

/-- The tokens behind a token that must come first. -/
def Token.expect (token : Token) : List Token → Except Fault (List Token)
  | t :: rest => if t = token then .ok rest else .error (.unexpected "token")
  | [] => .error .unexpectedEnd

/-- A name, which may have parts with points between them. -/
def Token.dottedNameRest : List Token → Except Fault (String × List Token)
  | .name first :: .symbol "." :: rest => do
    let (more, rest) ← Token.dottedNameRest rest
    return (first ++ "." ++ more, rest)
  | .name only :: rest => .ok (only, rest)
  | _ => .error (.unexpected "token in place of a name")

namespace Expr

/-- The strings at the start of tokens put together, and the tokens behind them. -/
def joinStrings : List Token → String × List Token
  | .string s :: rest =>
    let (more, rest) := joinStrings rest
    (s ++ more, rest)
  | ts => ("", ts)

/-- Whether a token behind the name of a test begins an argument of it. -/
def beginsArgument : Token → Bool
  | .name name => !(["and", "or", "else", "is"].contains name)
  | .string _ => true
  | .integer _ => true
  | .fraction => true
  | .symbol s => ["+", "-", "[", "\x7b"].contains s

/-- The largest index that may stand behind a point. -/
def largestIndex : Int := 0xFFFFFFFFFFFFFFFF

/-! ### Expressions -/

mutual

/-- An expression, one level deeper than what it is in. -/
def read : Nat → Nat → List Token → Except Fault (Expr × List Token)
  | 0, _, _ => .error .unexpectedEnd
  | _, 0, _ => .error .tooDeep
  | fuel + 1, room + 1, ts => do
    let (e, ts) ← readLevel fuel room 0 ts
    readChoices fuel room e ts

/-- What `if` and `else` make of an expression at their left. -/
def readChoices : Nat → Nat → Expr → List Token → Except Fault (Expr × List Token)
  | 0, _, _, _ => .error .unexpectedEnd
  | fuel + 1, room, yes, ts =>
    match ts with
    | .name "if" :: rest => do
      let (condition, rest) ← readLevel fuel room 0 rest
      match rest with
      | .name "else" :: rest =>
        let (no, rest) ← readLevel fuel room 0 rest
        let (no, rest) ← readChoices fuel room no rest
        readChoices fuel room (.choice condition yes (some no)) rest
      | _ => readChoices fuel room (.choice condition yes none) rest
    | _ => .ok (yes, ts)

/-- An expression whose operators are of a level or tighter. -/
def readLevel : Nat → Nat → Nat → List Token → Except Fault (Expr × List Token)
  | 0, _, _, _ => .error .unexpectedEnd
  | fuel + 1, room, level, ts =>
    if level = notLevel then
      match ts with
      | .name "not" :: rest => do
        let (e, rest) ← readLevel fuel room level rest
        return (.not e, rest)
      | _ => readLevel fuel room (level + 1) ts
    else if level = comparisonLevel then do
      let (first, ts) ← readLevel fuel room (level + 1) ts
      let (links, ts) ← readLinks fuel room ts
      return (if links.isEmpty then first else .chain first links, ts)
    else if level = signLevel then do
      let (e, ts) ← readSigned fuel room ts
      let (e, ts) ← readParts fuel room e ts
      readFilters fuel room e ts
    else do
      let (e, ts) ← readLevel fuel room (level + 1) ts
      readOperators fuel room level e ts

/-- What the operators of one level make of an expression at their left. -/
def readOperators : Nat → Nat → Nat → Expr → List Token → Except Fault (Expr × List Token)
  | 0, _, _, _, _ => .error .unexpectedEnd
  | fuel + 1, room, level, left, ts =>
    match ts with
    | token :: rest =>
      match (operatorsAt level).lookup token with
      | some op => do
        let (right, rest) ← readLevel fuel room (level + 1) rest
        readOperators fuel room level (.binary op left right) rest
      | none => .ok (left, ts)
    | [] => .ok (left, [])

/-- The links of a chain of comparisons. -/
def readLinks : Nat → Nat → List Token → Except Fault (List (Comparison × Expr) × List Token)
  | 0, _, _ => .error .unexpectedEnd
  | fuel + 1, room, ts =>
    match comparisonRest? ts with
    | some (op, rest) => do
      let (right, rest) ← readLevel fuel room (comparisonLevel + 1) rest
      let (links, rest) ← readLinks fuel room rest
      return ((op, right) :: links, rest)
    | none => .ok ([], ts)

/-- An operand with the signs before it. -/
def readSigned : Nat → Nat → List Token → Except Fault (Expr × List Token)
  | 0, _, _ => .error .unexpectedEnd
  | fuel + 1, room, ts =>
    match ts with
    | .symbol "-" :: rest => do
      let (e, rest) ← readSigned fuel room rest
      return (.negate e, rest)
    | _ => readOperand fuel room ts

/-- A literal, a variable, a list, a map or an expression in parentheses, one level deeper than
what it is in. Strings next to each other are one. -/
def readOperand : Nat → Nat → List Token → Except Fault (Expr × List Token)
  | 0, _, _ => .error .unexpectedEnd
  | _, 0, _ => .error .tooDeep
  | fuel + 1, room + 1, ts =>
    match ts with
    | .string _ :: _ =>
      let (s, rest) := joinStrings ts
      .ok (.literal (.string s), rest)
    | .integer n :: rest => .ok (.literal (.number n), rest)
    | .fraction :: rest => .ok (.valueless, rest)
    | .name name :: rest =>
      match constant? name with
      | some v => .ok (.literal v, rest)
      | none => .ok (.variable name, rest)
    | .symbol "(" :: .symbol ")" :: rest => .ok (.list [], rest)
    | .symbol "(" :: rest => do
      let (e, rest) ← read fuel room rest
      match rest with
      | .symbol "," :: rest =>
        let (es, rest) ← readSequence fuel room ")" rest
        return (.list (e :: es), rest)
      | _ => return (e, ← Token.expect (.symbol ")") rest)
    | .symbol "[" :: rest => do
      let (es, rest) ← readSequence fuel room "]" rest
      return (.list es, rest)
    | .symbol "\x7b" :: rest => do
      let (entries, rest) ← readEntries fuel room rest
      return (.map entries, rest)
    | .symbol s :: _ => .error (.unexpected ("'" ++ s ++ "'"))
    | [] => .error .unexpectedEnd

/-- What a chain of attributes, indices, slices and calls makes of an expression. A whole number
behind a point is an index. -/
def readParts : Nat → Nat → Expr → List Token → Except Fault (Expr × List Token)
  | 0, _, _, _ => .error .unexpectedEnd
  | fuel + 1, room, e, ts =>
    match ts with
    | .symbol "." :: .name name :: rest => readParts fuel room (.field e name) rest
    | .symbol "." :: .integer n :: rest =>
      if n ≤ largestIndex then readParts fuel room (.item e (.literal (.number n))) rest
      else .error .badNumber
    | .symbol "." :: _ => .error (.unexpected "token behind '.'")
    | .symbol "[" :: rest => do
      let (start, rest) ← readBound fuel room [":"] rest
      match rest with
      | .symbol ":" :: rest =>
        let (stop, rest) ← readBound fuel room [":", "]"] rest
        let (step, rest) ←
          match rest with
          | .symbol ":" :: rest => readBound fuel room ["]"] rest
          | _ => pure (.literal .null, rest)
        readParts fuel room (.slice e start stop step) (← Token.expect (.symbol "]") rest)
      | _ => readParts fuel room (.item e start) (← Token.expect (.symbol "]") rest)
    | .symbol "(" :: rest => do
      let (_, rest) ← readArguments fuel room false rest
      readParts fuel room .valueless rest
    | _ => .ok (e, ts)

/-- An expression in brackets, which is left out before one of some symbols. -/
def readBound : Nat → Nat → List String → List Token → Except Fault (Expr × List Token)
  | 0, _, _, _ => .error .unexpectedEnd
  | fuel + 1, room, stops, ts =>
    if stops.any fun stop => ts.head? = some (.symbol stop) then .ok (.literal .null, ts)
    else read fuel room ts

/-- What a chain of filters and tests makes of an expression. -/
def readFilters : Nat → Nat → Expr → List Token → Except Fault (Expr × List Token)
  | 0, _, _, _ => .error .unexpectedEnd
  | fuel + 1, room, e, ts =>
    match ts with
    | .symbol "|" :: rest => do
      let ((name, arguments), rest) ← readFilter fuel room rest
      readFilters fuel room (.filter e name arguments) rest
    | .name "is" :: .name "not" :: rest => do
      let ((name, arguments), rest) ← readTest fuel room rest
      readFilters fuel room (.not (.test e name arguments)) rest
    | .name "is" :: rest => do
      let ((name, arguments), rest) ← readTest fuel room rest
      readFilters fuel room (.test e name arguments) rest
    | _ => .ok (e, ts)

/-- A filter by its name, with its arguments. -/
def readFilter : Nat → Nat → List Token → Except Fault ((String × List Expr) × List Token)
  | 0, _, _ => .error .unexpectedEnd
  | fuel + 1, room, ts => do
    let (name, rest) ← Token.dottedNameRest ts
    match rest with
    | .symbol "(" :: rest =>
      let (arguments, rest) ← readArguments fuel room false rest
      return ((name, arguments), rest)
    | _ => return ((name, []), rest)

/-- A test by its name, with its arguments. A single argument may stand without parentheses. -/
def readTest : Nat → Nat → List Token → Except Fault ((String × List Expr) × List Token)
  | 0, _, _ => .error .unexpectedEnd
  | fuel + 1, room, ts => do
    let (name, rest) ← Token.dottedNameRest ts
    match rest with
    | .symbol "(" :: rest =>
      let (arguments, rest) ← readArguments fuel room false rest
      return ((name, arguments), rest)
    | _ =>
      if rest.head?.any beginsArgument then
        let (argument, rest) ← readSigned fuel room rest
        let (argument, rest) ← readParts fuel room argument rest
        return ((name, [argument]), rest)
      else return ((name, []), rest)

/-- Arguments separated by commas, up to the closing parenthesis; a comma may stand before it. A
named argument, or several that `*` or `**` takes out of a value, can be written but have no value.
Behind one with a name no other may stand by its place. -/
def readArguments : Nat → Nat → Bool → List Token → Except Fault (List Expr × List Token)
  | 0, _, _, _ => .error .unexpectedEnd
  | fuel + 1, room, named, ts =>
    if ts.head? = some (.symbol ")") then .ok ([], ts.tail)
    else do
      let (argument, named, ts) ←
        match ts with
        | .symbol "**" :: rest => do
          let (_, rest) ← read fuel room rest
          pure (.valueless, true, rest)
        | .symbol "*" :: rest => do
          let (_, rest) ← read fuel room rest
          pure (.valueless, named, rest)
        | _ => do
          let (e, rest) ← read fuel room ts
          match e, rest with
          | .variable _, .symbol "=" :: rest =>
            let (_, rest) ← readLevel fuel room 0 rest
            pure (.valueless, true, rest)
          | _, _ => if named then .error (.unexpected "argument") else pure (e, named, rest)
      match ts with
      | .symbol "," :: rest =>
        let (arguments, rest) ← readArguments fuel room named rest
        return (argument :: arguments, rest)
      | _ => return ([argument], ← Token.expect (.symbol ")") ts)

/-- Expressions separated by commas, up to a closing symbol; a comma may stand before it. -/
def readSequence : Nat → Nat → String → List Token → Except Fault (List Expr × List Token)
  | 0, _, _, _ => .error .unexpectedEnd
  | fuel + 1, room, closer, ts =>
    if ts.head? = some (.symbol closer) then .ok ([], ts.tail)
    else do
      let (e, ts) ← read fuel room ts
      match ts with
      | .symbol "," :: rest =>
        let (es, rest) ← readSequence fuel room closer rest
        return (e :: es, rest)
      | _ => return ([e], ← Token.expect (.symbol closer) ts)

/-- Keys and values separated by commas, up to the closing brace; a comma may stand before it. -/
def readEntries : Nat → Nat → List Token → Except Fault (List (Expr × Expr) × List Token)
  | 0, _, _ => .error .unexpectedEnd
  | fuel + 1, room, ts =>
    if ts.head? = some (.symbol "\x7d") then .ok ([], ts.tail)
    else do
      let (key, ts) ← read fuel room ts
      let (value, ts) ← read fuel room (← Token.expect (.symbol ":") ts)
      match ts with
      | .symbol "," :: rest =>
        let (entries, rest) ← readEntries fuel room rest
        return ((key, value) :: entries, rest)
      | _ => return ([(key, value)], ← Token.expect (.symbol "\x7d") ts)

end

/-! ### Whole expressions -/

/-- A bound on the steps of reading: no token is looked at more often than there are levels and
kinds of readers. -/
def readingBound (ts : List Token) : Nat :=
  24 * (ts.length + 1)

/-- The expression that tokens begin with, where so many levels are left. -/
def leading (room : Nat) (ts : List Token) : Except Fault (Expr × List Token) :=
  read (readingBound ts) room ts

/-- The expression without a choice that tokens begin with. It takes no level of its own. -/
def leadingChoiceless (room : Nat) (ts : List Token) : Except Fault (Expr × List Token) :=
  readLevel (readingBound ts) room 0 ts

/-- What has been read, if no tokens are left. -/
def whole {α : Type} : α × List Token → Except Fault α
  | (a, []) => .ok a
  | _ => .error (.unexpected "token behind an expression")

/-- The expression that tokens consist of. -/
def ofTokens (room : Nat) (ts : List Token) : Except Fault Expr := do
  whole (← leading room ts)

/-- The expression without a choice that tokens consist of. -/
def choiceless (room : Nat) (ts : List Token) : Except Fault Expr := do
  whole (← leadingChoiceless room ts)

/-- The filters that tokens consist of, separated by bars. -/
def filtersOfTokens (room : Nat) (ts : List Token) :
    Except Fault (List (String × List Expr)) :=
  go (ts.length + 1) ts
where
  /-- The filters up to the end of the tokens. Every step takes at least one token. -/
  go : Nat → List Token → Except Fault (List (String × List Expr))
    | 0, _ => .error .unexpectedEnd
    | fuel + 1, ts => do
      let (first, rest) ← readFilter (readingBound ts) room ts
      match rest with
      | [] => return [first]
      | .symbol "|" :: rest => return first :: (← go fuel rest)
      | _ => .error (.unexpected "token behind a filter")

end Expr

end ScanQuery.Template
