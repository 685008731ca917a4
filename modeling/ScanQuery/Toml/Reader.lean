import ScanQuery.Json.Reader
import ScanQuery.Text.Blank
import ScanQuery.Toml.Scalar

/-!
Reading TOML. A document is a sequence of lines: definitions `key = value`, headers of tables and
of tables in lists, and blank lines; each may end with a comment. Definitions belong to the table
of the last header. A key may be defined once, and a table may have one header.

Arrays and tables in braces nest less than `nestingLimit` deep, and a key has fewer parts than that.
-/

namespace ScanQuery.Toml

/-- The depth that the arrays and tables of a value do not reach, and the number of parts that a
key does not. -/
def nestingLimit : Nat := 80

/-! ### Blanks and comments -/

/-- White space within a line. -/
def isSpace (c : Char) : Bool :=
  c == ' ' || c == '\t'

/-- The text behind white space within a line. -/
def skipSpace (cs : List Char) : List Char :=
  cs.dropWhile isSpace

/-- A character that may stand in a comment or in a string as it is. -/
def isPlain (c : Char) : Bool :=
  c == '\t' || (0x20 ≤ c.toNat && c.toNat != 0x7F)

/-- The text behind the end of a line. -/
def newlineRest? : List Char → Option (List Char)
  | '\n' :: rest => some rest
  | '\r' :: '\n' :: rest => some rest
  | _ => none

/-- The text behind a comment, if there is one. -/
def skipComment (cs : List Char) : List Char :=
  match cs with
  | '#' :: rest => rest.dropWhile isPlain
  | cs => cs

/-- The text behind white space, comments and line ends. Every step takes a line end. -/
def skipLines : Nat → List Char → List Char
  | 0, cs => cs
  | fuel + 1, cs =>
    let rest := skipComment (skipSpace cs)
    match newlineRest? rest with
    | some rest => skipLines fuel rest
    | none => rest

/-- The text behind white space, comments and line ends. -/
def skipBlank (cs : List Char) : List Char :=
  skipLines (cs.length + 1) cs

/-- The text behind the end of a line that may have a comment; the end of the document ends a
line, too. -/
def lineEnd (cs : List Char) : Except Fault (List Char) :=
  match skipComment (skipSpace cs) with
  | [] => .ok []
  | rest =>
    match newlineRest? rest with
    | some rest => .ok rest
    | none => .error (.malformed "line")

/-! ### Strings -/

/-- The character of an escape, given by what follows the backslash, and the text behind it. -/
def escapeRest? : List Char → Option (Char × List Char)
  | 'u' :: a :: b :: c :: d :: rest => code? [a, b, c, d] rest
  | 'U' :: a :: b :: c :: d :: e :: f :: g :: h :: rest => code? [a, b, c, d, e, f, g, h] rest
  | c :: rest => if c = '/' then none else (Json.escaped? c).map fun e => (e, rest)
  | [] => none
where
  /-- The character with a hexadecimal code. -/
  code? (digits rest : List Char) : Option (Char × List Char) := do
    let code ← Json.hexNumber? digits
    if code.isValidChar then return (Char.ofNat code, rest) else none

/-- A string in double quotes up to the closing quote, and what follows it. -/
def basicRest? : Nat → List Char → Option (List Char × List Char)
  | 0, _ => none
  | _ + 1, [] => none
  | fuel + 1, c :: cs =>
    if c = '"' then some ([], cs)
    else if c = '\\' then do
      let (e, cs) ← escapeRest? cs
      let (more, rest) ← basicRest? fuel cs
      return (e :: more, rest)
    else if isPlain c then do
      let (more, rest) ← basicRest? fuel cs
      return (c :: more, rest)
    else none

/-- A string in single quotes up to the closing quote, and what follows it. -/
def literalRest? (cs : List Char) : Option (List Char × List Char) :=
  let content := cs.takeWhile fun c => c != '\'' && isPlain c
  match cs.drop content.length with
  | '\'' :: rest => some (content, rest)
  | _ => none

/-- The end of a string in triple quotes, where a run of quotes closes it: up to two quotes more
than three belong to the string. -/
def closingRun? (quote : Char) (cs : List Char) : Option (List Char × List Char) :=
  let run := (cs.takeWhile (· = quote)).length
  if run < 3 then none
  else some (List.replicate (min (run - 3) 2) quote, cs.drop (min run 5))

/-- The text behind white space and line ends. Every step takes a line end. -/
def skipNewlines : Nat → List Char → List Char
  | 0, cs => cs
  | fuel + 1, cs =>
    let rest := skipSpace cs
    match newlineRest? rest with
    | some rest => skipNewlines fuel rest
    | none => rest

/-- The text behind a backslash at the end of a line, up to the next character that is not white
space. -/
def continuation? (cs : List Char) : Option (List Char) :=
  (newlineRest? (skipSpace cs)).map fun rest => skipNewlines (rest.length + 1) rest

/-- A string over several lines up to the closing quotes, and what follows them. Line ends in it
are line feeds. -/
def multilineRest? (quote : Char) : Nat → List Char → Option (List Char × List Char)
  | 0, _ => none
  | _ + 1, [] => none
  | fuel + 1, c :: cs =>
    match closingRun? quote (c :: cs) with
    | some closed => some closed
    | none =>
      match newlineRest? (c :: cs) with
      | some cs => do
        let (more, rest) ← multilineRest? quote fuel cs
        return ('\n' :: more, rest)
      | none =>
        if c = '\\' ∧ quote = '"' then
          match continuation? cs with
          | some cs => multilineRest? quote fuel cs
          | none => do
            let (e, cs) ← escapeRest? cs
            let (more, rest) ← multilineRest? quote fuel cs
            return (e :: more, rest)
        else if isPlain c then do
          let (more, rest) ← multilineRest? quote fuel cs
          return (c :: more, rest)
        else none

/-- A string on one line, and what follows it. -/
def lineStringRest? (cs : List Char) : Option (List Char × List Char) :=
  match cs with
  | '"' :: rest => basicRest? (rest.length + 1) rest
  | '\'' :: rest => literalRest? rest
  | _ => none

/-- The text behind a line end at the start of a string over several lines. -/
def skipFirstNewline (cs : List Char) : List Char :=
  (newlineRest? cs).getD cs

/-- A string, and what follows it. -/
def stringRest? (cs : List Char) : Option (List Char × List Char) :=
  match cs with
  | '"' :: '"' :: '"' :: rest => multilineRest? '"' (rest.length + 1) (skipFirstNewline rest)
  | '\'' :: '\'' :: '\'' :: rest => multilineRest? '\'' (rest.length + 1) (skipFirstNewline rest)
  | cs => lineStringRest? cs

/-! ### Keys -/

/-- A character of a key without quotes. -/
def inBareKey (c : Char) : Bool :=
  c.isAlphanum || c == '_' || c == '-'

/-- A part of a key, and what follows it. -/
def keyPartRest? (cs : List Char) : Option (String × List Char) :=
  match cs with
  | [] => none
  | c :: _ =>
    if c = '"' ∨ c = '\'' then (lineStringRest? cs).map fun (s, rest) => (String.ofList s, rest)
    else
      let bare := cs.takeWhile inBareKey
      if bare.isEmpty then none else some (String.ofList bare, cs.drop bare.length)

/-- A key: one or more parts separated by dots, with white space around each. -/
def keyRest? : Nat → List Char → Option (List String × List Char)
  | 0, _ => none
  | fuel + 1, cs => do
    let (part, rest) ← keyPartRest? (skipSpace cs)
    match skipSpace rest with
    | '.' :: rest =>
      let (parts, rest) ← keyRest? fuel rest
      return (part :: parts, rest)
    | rest => return ([part], rest)

/-- The key at the start of a text, and what follows it. -/
def keyAt (cs : List Char) : Except Fault (List String × List Char) :=
  match keyRest? (cs.length + 1) cs with
  | some (parts, rest) =>
    if parts.length < nestingLimit then .ok (parts, rest) else .error (.tooDeep "key")
  | none => .error (.malformed "key")

/-! ### Values -/

mutual

/-- The value at the start of a text, inside so many arrays and tables that it has `room` for, and
what follows it. -/
def valueRest : Nat → Nat → List Char → Except Fault (Value × List Char)
  | 0, _, _ => .error (.malformed "value")
  | fuel + 1, room, cs =>
    match cs with
    | '[' :: rest =>
      match room with
      | 0 => .error (.tooDeep "array")
      | room + 1 => do
        let (vs, rest) ← elementsRest fuel room rest
        return (.array vs, rest)
    | '\x7b' :: rest =>
      match room with
      | 0 => .error (.tooDeep "table")
      | room + 1 =>
        match skipSpace rest with
        | '\x7d' :: rest => .ok (.table .braces [], rest)
        | rest => do
          let (fields, rest) ← fieldsRest fuel room [] rest
          return (.table .braces fields, rest)
    | 't' :: 'r' :: 'u' :: 'e' :: rest => .ok (.boolean true, rest)
    | 'f' :: 'a' :: 'l' :: 's' :: 'e' :: rest => .ok (.boolean false, rest)
    | c :: _ =>
      if c = '"' ∨ c = '\'' then
        match stringRest? cs with
        | some (s, rest) => .ok (.string (String.ofList s), rest)
        | none => .error (.malformed "string")
      else
        match scalarRest? cs with
        | some found => .ok found
        | none => .error (.malformed "value")
    | [] => .error (.malformed "value")

/-- The elements of an array up to its closing bracket; a comma may stand before it. -/
def elementsRest : Nat → Nat → List Char → Except Fault (List Value × List Char)
  | 0, _, _ => .error (.malformed "array")
  | fuel + 1, room, cs =>
    match skipBlank cs with
    | ']' :: rest => .ok ([], rest)
    | cs => do
      let (v, rest) ← valueRest fuel room cs
      match skipBlank rest with
      | ',' :: rest =>
        let (vs, rest) ← elementsRest fuel room rest
        return (v :: vs, rest)
      | ']' :: rest => return ([v], rest)
      | _ => .error (.malformed "array")

/-- The definitions of a table in braces up to the closing one. -/
def fieldsRest : Nat → Nat → Fields → List Char → Except Fault (Fields × List Char)
  | 0, _, _, _ => .error (.malformed "table")
  | fuel + 1, room, fields, cs => do
    let (key, rest) ← keyAt cs
    match rest with
    | '=' :: rest =>
      let (v, rest) ← valueRest fuel room (skipSpace rest)
      let fields ← define key.dropLast (key.getLast?.getD "") v .header fields
      match skipSpace rest with
      | ',' :: rest => fieldsRest fuel room fields rest
      | '\x7d' :: rest => return (fields, rest)
      | _ => .error (.malformed "table")
    | _ => .error (.malformed "definition")

end

/-! ### Documents -/

/-- A document that is being read: the tables finished so far, and the table of the last header,
with the keys of that header and whether it is one of a list. -/
structure Draft where
  root : Fields
  path : List String
  inList : Bool
  current : Fields

/-- The document with the present table in its place. -/
def Draft.finish (d : Draft) : Except Fault Fields :=
  match d.path.getLast? with
  | none => .ok d.current
  | some key =>
    changeAt false (fun _ fields =>
      let table := Value.table .header d.current
      if d.inList then
        match fields.lookup key with
        | none => .ok (fields.put key (.tables [table]))
        | some (.tables elements) => .ok (fields.put key (.tables (elements ++ [table])))
        | some _ => .error (.duplicate key)
      else .ok (fields.put key table)) d.path.dropLast .header d.root

/-- The document behind a header. A table that came about on the way to others keeps what is in
it; any other table of that name is a second one. -/
def Draft.enter (d : Draft) (path : List String) (inList : Bool) : Except Fault Draft := do
  let root ← d.finish
  let key := path.getLast?.getD ""
  let mut current : Fields := []
  let root ← changeAt false (fun _ fields => .ok fields) path.dropLast .header root
  match ← entry root path with
  | none => pure ()
  | some (.tables _) => if !inList then throw (.duplicate key)
  | some (.table .passing inner) =>
    if inList then throw (.duplicate key)
    current := inner
  | some _ => throw (.duplicate key)
  return ⟨root, path, inList, current⟩
where
  /-- What stands under the keys of a header. -/
  entry (fields : Fields) : List String → Except Fault (Option Value)
    | [] => .ok none
    | [key] => .ok (fields.lookup key)
    | key :: rest =>
      match fields.lookup key with
      | some (.table _ inner) => entry inner rest
      | some (.tables elements) =>
        match elements.getLast? with
        | some (.table _ inner) => entry inner rest
        | _ => .error (.notTable key)
      | _ => .error (.notTable key)

/-- The keys of a header, up to the closing brackets, and what follows them. -/
def headerRest (closer : List Char) (cs : List Char) : Except Fault (List String × List Char) := do
  let (path, rest) ← keyAt cs
  match closer.isPrefixOf? rest with
  | some rest => return (path, rest)
  | none => .error (.malformed "header")

/-- The document with one more line, and the text behind it. -/
def readLine (d : Draft) (cs : List Char) : Except Fault (Draft × List Char) := do
  match skipSpace cs with
  | '[' :: '[' :: rest =>
    let (path, rest) ← headerRest [']', ']'] rest
    return (← d.enter path true, ← lineEnd rest)
  | '[' :: rest =>
    let (path, rest) ← headerRest [']'] rest
    return (← d.enter path false, ← lineEnd rest)
  | rest =>
    match rest with
    | [] => return (d, [])
    | c :: _ =>
      if c = '#' ∨ c = '\n' ∨ c = '\r' then return (d, ← lineEnd rest)
      else
        let (key, rest) ← keyAt rest
        match rest with
        | '=' :: rest =>
          let rest := skipSpace rest
          let (v, rest) ← valueRest (2 * rest.length + 1) (nestingLimit - 1) rest
          let current ← define key.dropLast (key.getLast?.getD "") v .header d.current
          return ({ d with current }, ← lineEnd rest)
        | _ => .error (.malformed "definition")

/-- The document with the lines of a text. Every step takes a line. -/
def readLines : Nat → Draft → List Char → Except Fault Draft
  | 0, d, _ => .ok d
  | _ + 1, d, [] => .ok d
  | fuel + 1, d, cs => do
    let (d, rest) ← readLine d cs
    readLines fuel d rest

/-- The document written in a text. -/
def parse (text : String) : Except Fault Fields := do
  let cs := match text.toList with
    | '\uFEFF' :: cs => cs
    | cs => cs
  (← readLines (cs.length + 1) ⟨[], [], false, []⟩ cs).finish

end ScanQuery.Toml
