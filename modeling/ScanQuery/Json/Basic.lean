/-!
JSON values and their written forms. Numbers are integers, which is all that the values of this
library need. Fields of an object keep the order they are given in. A string is written with the
escapes that JSON requires and no others: the quote, the backslash and the control characters
below the space.

Two layouts are written: `compact`, without any white space, and `pretty`, with one element or
field a line, two spaces deeper than what holds it.
-/

namespace ScanQuery

/-- A JSON value. -/
inductive Json where
  | null
  | bool (b : Bool)
  | number (n : Int)
  | string (s : String)
  | array (elements : List Json)
  | object (fields : List (String × Json))
  deriving Inhabited

namespace Json

/-- A hexadecimal digit in lower case. -/
def hexDigit (n : Nat) : Char :=
  Char.ofNat (if n < 10 then '0'.toNat + n else 'a'.toNat + (n - 10))

/-- The written form of one character of a string. -/
def escapeChar (c : Char) : List Char :=
  if c = '"' then ['\\', '"']
  else if c = '\\' then ['\\', '\\']
  else if c = '\n' then ['\\', 'n']
  else if c = '\r' then ['\\', 'r']
  else if c = '\t' then ['\\', 't']
  else if c = '\u0008' then ['\\', 'b']
  else if c = '\u000c' then ['\\', 'f']
  else if c.toNat < 0x20 then
    ['\\', 'u', '0', '0', hexDigit (c.toNat / 16), hexDigit (c.toNat % 16)]
  else [c]

/-- A string in quotes. -/
def quoteChars (cs : List Char) : List Char :=
  '"' :: (cs.flatMap escapeChar ++ ['"'])

/-- A string in quotes. -/
def quote (s : String) : List Char :=
  quoteChars s.toList

/-- An integer in decimal. -/
def integerChars (n : Int) : List Char :=
  (toString n).toList

/-! ### Compact layout -/

mutual

/-- The value without white space. -/
def compactChars : Json → List Char
  | null => "null".toList
  | bool b => (if b then "true" else "false").toList
  | number n => integerChars n
  | string s => quote s
  | array elements => '[' :: (compactElements elements ++ [']'])
  | object fields => '\x7b' :: (compactFields fields ++ ['\x7d'])

/-- The elements of an array, separated by commas. -/
def compactElements : List Json → List Char
  | [] => []
  | [v] => compactChars v
  | v :: vs => compactChars v ++ ',' :: compactElements vs

/-- The fields of an object, separated by commas. -/
def compactFields : List (String × Json) → List Char
  | [] => []
  | [(key, v)] => quote key ++ ':' :: compactChars v
  | (key, v) :: fields => quote key ++ ':' :: compactChars v ++ ',' :: compactFields fields

end

/-- The written form without white space. -/
def compact (v : Json) : String :=
  String.ofList v.compactChars

/-! ### Pretty layout -/

/-- A new line at the given depth. -/
def newLine (depth : Nat) : List Char :=
  '\n' :: List.replicate (2 * depth) ' '

mutual

/-- The value in the pretty layout, inside `depth` arrays and objects. -/
def prettyChars (depth : Nat) : Json → List Char
  | null => "null".toList
  | bool b => (if b then "true" else "false").toList
  | number n => integerChars n
  | string s => quote s
  | array [] => ['[', ']']
  | array elements =>
    '[' :: (prettyElements (depth + 1) elements ++ newLine depth ++ [']'])
  | object [] => ['\x7b', '\x7d']
  | object fields =>
    '\x7b' :: (prettyFields (depth + 1) fields ++ newLine depth ++ ['\x7d'])

/-- Elements, each on a line of its own. -/
def prettyElements (depth : Nat) : List Json → List Char
  | [] => []
  | [v] => newLine depth ++ prettyChars depth v
  | v :: vs => newLine depth ++ prettyChars depth v ++ ',' :: prettyElements depth vs

/-- Fields, each on a line of its own. -/
def prettyFields (depth : Nat) : List (String × Json) → List Char
  | [] => []
  | [(key, v)] => newLine depth ++ quote key ++ ':' :: ' ' :: prettyChars depth v
  | (key, v) :: fields =>
    newLine depth ++ quote key ++ ':' :: ' ' :: prettyChars depth v ++
      ',' :: prettyFields depth fields

end

/-- The written form with one element or field a line. -/
def pretty (v : Json) : String :=
  String.ofList (v.prettyChars 0)

/-! ### Access -/

/-- The first field of an object with the given name. -/
def field? (name : String) : Json → Option Json
  | object fields => fields.lookup name
  | _ => none

end Json

end ScanQuery
