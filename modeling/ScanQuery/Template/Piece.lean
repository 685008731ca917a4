import ScanQuery.Template.Literal
import ScanQuery.Text.Blank
import ScanQuery.Text.Split

/-!
The pieces of a template: text that is copied, expressions in double braces, and tags in braces
with percent signs. Comments are left out, and what stands in a raw block is text. A minus sign at
the inner side of a delimiter removes the white space of the text next to it.

Delimiters are those of the language unless it is set up otherwise, and there are no line
statements. A number with a fraction is a token that has no value.
-/

namespace ScanQuery.Template

/-- A token inside an expression or a tag. -/
inductive Token where
  | name (text : String)
  | string (text : String)
  | integer (n : Int)
  | fraction
  | symbol (text : String)
  deriving DecidableEq, Repr

/-- A piece of a template. -/
inductive Piece where
  | text (content : String)
  | output (tokens : List Token)
  | tag (tokens : List Token)
  deriving DecidableEq, Repr

/-! ### Tokens -/

/-- White space between tokens. -/
def isGap (c : Char) : Bool :=
  c == ' ' || c == '\t' || c == '\n' || c == '\r' || c == '\x0c'

/-- A character of a name. -/
def inName (c : Char) : Bool :=
  c.isAlphanum || c == '_'

/-- The operators and marks of the language, the longer ones first. -/
def symbols : List String :=
  ["//", "**", "==", "!=", ">=", "<=", "+", "-", "*", "/", "%", ".", ",", ":", "~", "|", "=", ">",
    "<", "(", ")", "[", "]", "\x7b", "\x7d"]

/-- The symbol at the start of a text, and what follows it. -/
def symbolRest? (cs : List Char) : Option (String × List Char) :=
  symbols.findSome? fun s => (s.toList.isPrefixOf? cs).map fun rest => (s, rest)

/-- The token at the start of a text, and what follows it. -/
def tokenRest? (cs : List Char) : Except Fault (Token × List Char) :=
  match cs with
  | [] => .error .unclosedTag
  | c :: rest =>
    if c = '"' ∨ c = '\'' then
      match stringRest? c rest with
      | some (s, rest) => .ok (.string s, rest)
      | none => .error .badString
    else if c.isDigit then
      (numberRest cs).map fun (n, rest) => ((n.map fun n => .integer n).getD .fraction, rest)
    else if startsName c then
      .ok (.name (String.ofList (cs.takeWhile inName)), cs.dropWhile inName)
    else
      match symbolRest? cs with
      | some (s, rest) => .ok (.symbol s, rest)
      | none => .error (.badCharacter c)

/-- The mark at the inner side of a closing delimiter, and what follows the delimiter. -/
def closing? (closer : List Char) (cs : List Char) : Option (Bool × List Char) :=
  match closer.isPrefixOf? cs with
  | some rest => some (false, rest)
  | none =>
    match cs with
    | '-' :: cs => (closer.isPrefixOf? cs).map fun rest => (true, rest)
    | '+' :: cs => (closer.isPrefixOf? cs).map fun rest => (false, rest)
    | _ => none

/-- The inside of a tag: its tokens, whether white space behind it is removed, and what follows
it. Every step takes at least one character. -/
def tagRest? (closer : List Char) : Nat → List Char →
    Except Fault (List Token × Bool × List Char)
  | 0, _ => .error .unclosedTag
  | fuel + 1, cs =>
    let cs := cs.dropWhile isGap
    match closing? closer cs with
    | some (trims, rest) => .ok ([], trims, rest)
    | none => do
      let (token, rest) ← tokenRest? cs
      let (tokens, trims, rest) ← tagRest? closer fuel rest
      return (token :: tokens, trims, rest)

/-! ### Pieces -/

/-- The text up to the first opening delimiter, and the rest from there on. -/
def untilOpening : List Char → List Char × List Char
  | [] => ([], [])
  | [c] => ([c], [])
  | c :: d :: cs =>
    if c = '\x7b' ∧ (d = '\x7b' ∨ d = '%' ∨ d = '#') then ([], c :: d :: cs)
    else
      let (text, rest) := untilOpening (d :: cs)
      (c :: text, rest)

/-- The mark at the inner side of an opening delimiter, and what follows it. -/
def openingMark : List Char → Bool × List Char
  | '-' :: cs => (true, cs)
  | '+' :: cs => (false, cs)
  | cs => (false, cs)

/-- A tag that consists of a name only, at the start of a text behind its opening delimiter:
whether it removes the white space behind it, and what follows. -/
def plainTag? (name : String) (cs : List Char) : Option (Bool × List Char) := do
  let rest ← name.toList.isPrefixOf? (cs.dropWhile isGap)
  closing? ['%', '\x7d'] (rest.dropWhile isGap)

/-- The content of a raw block, whether white space behind the block is removed, and what follows
it. -/
def rawRest? : List Char → Except Fault (List Char × Bool × List Char)
  | [] => .error .unclosedRaw
  | c :: cs =>
    let found : Option (Bool × Bool × List Char) :=
      match c, cs with
      | '\x7b', '%' :: body =>
        let (trimsBefore, body) := openingMark body
        (plainTag? "endraw" body).map fun (trims, rest) => (trimsBefore, trims, rest)
      | _, _ => none
    match found with
    | some (_, trims, rest) => .ok ([], trims, rest)
    | none => (rawRest? cs).map fun (content, trims, rest) => (c :: content, trims, rest)

/-- Whether the end of the raw block that begins here removes the white space before it. -/
def rawEndTrims : List Char → Bool
  | [] => false
  | c :: cs =>
    match c, cs with
    | '\x7b', '%' :: body =>
      match plainTag? "endraw" (openingMark body).2 with
      | some _ => (openingMark body).1
      | none => rawEndTrims cs
    | _, _ => rawEndTrims cs

/-- The text with the white space at its start removed when asked to. -/
def trimStartIf (trims : Bool) (cs : List Char) : List Char :=
  if trims then cs.dropWhile Text.isBlank else cs

/-- The text with the white space at its end removed when asked to. -/
def trimEndIf (trims : Bool) (cs : List Char) : List Char :=
  if trims then Text.dropEndWhile Text.isBlank cs else cs

/-- The pieces of a text, of whose start white space is removed when asked to. Every step takes
at least one delimiter. -/
def pieces (fuel : Nat) (trims : Bool) (cs : List Char) : Except Fault (List Piece) :=
  match fuel with
  | 0 => .error .unexpectedEnd
  | fuel + 1 =>
    let (text, rest) := untilOpening cs
    let text := trimStartIf trims text
    match rest with
    | _ :: kind :: body =>
      let (trimsBefore, body) := openingMark body
      let before := Piece.text (String.ofList (trimEndIf trimsBefore text))
      if kind = '#' then
        match Text.cutAt? ['#', '\x7d'] body with
        | none => .error .unclosedComment
        | some (comment, rest) =>
          (pieces fuel (comment.getLast? == some '-') rest).map (before :: ·)
      else if kind = '%' then
        match plainTag? "raw" body with
        | some (trimsContent, content) => do
          let (raw, trims, rest) ← rawRest? content
          let raw := trimEndIf (rawEndTrims content) (trimStartIf trimsContent raw)
          let more ← pieces fuel trims rest
          return before :: .text (String.ofList raw) :: more
        | none => do
          let (tokens, trims, rest) ← tagRest? ['%', '\x7d'] (body.length + 1) body
          let more ← pieces fuel trims rest
          return before :: .tag tokens :: more
      else do
        let (tokens, trims, rest) ← tagRest? ['\x7d', '\x7d'] (body.length + 1) body
        let more ← pieces fuel trims rest
        return before :: .output tokens :: more
    | _ => .ok [.text (String.ofList text)]

/-- The pieces of a template. -/
def piecesOf (source : String) : Except Fault (List Piece) :=
  pieces (source.toList.length + 1) false source.toList

end ScanQuery.Template
