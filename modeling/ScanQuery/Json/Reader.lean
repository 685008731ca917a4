import ScanQuery.Json.Basic
import ScanQuery.Text.Decimal

/-!
Reading JSON. A reader takes the characters of a text, reads one value at their start and hands
back what follows it. Values may nest as deep as the text is long, so the length of the text
bounds every recursion and `parse?` needs no bound of its own.
-/

namespace ScanQuery.Json

/-- White space between the tokens of JSON. -/
def isSpace (c : Char) : Bool :=
  c == ' ' || c == '\t' || c == '\n' || c == '\r'

/-- The text behind leading white space. -/
def skipSpace (cs : List Char) : List Char :=
  cs.dropWhile isSpace

/-- The value of a hexadecimal digit. -/
def hexValue? (c : Char) : Option Nat :=
  if c.isDigit then some (c.toNat - '0'.toNat)
  else if 'a' ≤ c ∧ c ≤ 'f' then some (c.toNat - 'a'.toNat + 10)
  else if 'A' ≤ c ∧ c ≤ 'F' then some (c.toNat - 'A'.toNat + 10)
  else none

/-- The number that hexadecimal digits denote. -/
def hexNumber? (cs : List Char) : Option Nat :=
  cs.foldlM (fun n c => (hexValue? c).map (16 * n + ·)) 0

/-- The character that a one-letter escape stands for. -/
def escaped? (c : Char) : Option Char :=
  if c = '"' ∨ c = '\\' ∨ c = '/' then some c
  else if c = 'n' then some '\n'
  else if c = 'r' then some '\r'
  else if c = 't' then some '\t'
  else if c = 'b' then some '\u0008'
  else if c = 'f' then some '\u000c'
  else none

/-- The characters of a string up to its closing quote, and what follows it. A character beyond
the basic plane may be written as a pair of surrogates. -/
def stringRest? : List Char → Option (List Char × List Char)
  | [] => none
  | '"' :: rest => some ([], rest)
  | '\\' :: 'u' :: a :: b :: c :: d :: rest =>
    match hexNumber? [a, b, c, d] with
    | none => none
    | some high =>
      if 0xD800 ≤ high ∧ high < 0xDC00 then
        match rest with
        | '\\' :: 'u' :: e :: f :: g :: h :: rest =>
          match hexNumber? [e, f, g, h] with
          | some low =>
            if 0xDC00 ≤ low ∧ low < 0xE000 then
              (stringRest? rest).map fun (cs, r) =>
                (Char.ofNat (0x10000 + (high - 0xD800) * 0x400 + (low - 0xDC00)) :: cs, r)
            else none
          | none => none
        | _ => none
      else if 0xDC00 ≤ high ∧ high < 0xE000 then none
      else (stringRest? rest).map fun (cs, r) => (Char.ofNat high :: cs, r)
  | '\\' :: e :: rest =>
    match escaped? e with
    | some c => (stringRest? rest).map fun (cs, r) => (c :: cs, r)
    | none => none
  | c :: rest =>
    if c.toNat < 0x20 then none else (stringRest? rest).map fun (cs, r) => (c :: cs, r)

/-- An integer: an optional minus sign and digits without a superfluous zero in front, not
followed by a fraction or an exponent. -/
def numberRest? (cs : List Char) : Option (Int × List Char) :=
  let (negative, cs) := match cs with
    | '-' :: cs => (true, cs)
    | cs => (false, cs)
  let digits := cs.takeWhile Char.isDigit
  let rest := cs.dropWhile Char.isDigit
  let tooLong := digits.length > 1 && digits.head? == some '0'
  let goesOn := match rest with
    | c :: _ => c == '.' || c == 'e' || c == 'E'
    | [] => false
  if tooLong || goesOn then none
  else
    (Text.natural? digits).map fun n => (if negative then -Int.ofNat n else Int.ofNat n, rest)

mutual

/-- The value at the start of a text, read with at most `fuel` nested steps. -/
def valueRest? : Nat → List Char → Option (Json × List Char)
  | 0, _ => none
  | fuel + 1, cs =>
    match skipSpace cs with
    | '"' :: rest => (stringRest? rest).map fun (s, r) => (string (String.ofList s), r)
    | '[' :: rest =>
      match skipSpace rest with
      | ']' :: r => some (array [], r)
      | r => (elementsRest? fuel r).map fun (vs, r) => (array vs, r)
    | '\x7b' :: rest =>
      match skipSpace rest with
      | '\x7d' :: r => some (object [], r)
      | r => (fieldsRest? fuel r).map fun (fs, r) => (object fs, r)
    | 't' :: 'r' :: 'u' :: 'e' :: r => some (bool true, r)
    | 'f' :: 'a' :: 'l' :: 's' :: 'e' :: r => some (bool false, r)
    | 'n' :: 'u' :: 'l' :: 'l' :: r => some (null, r)
    | r => (numberRest? r).map fun (n, r) => (number n, r)

/-- One or more elements and the bracket that closes their array. -/
def elementsRest? : Nat → List Char → Option (List Json × List Char)
  | 0, _ => none
  | fuel + 1, cs =>
    match valueRest? fuel cs with
    | none => none
    | some (v, r) =>
      match skipSpace r with
      | ']' :: r => some ([v], r)
      | ',' :: r => (elementsRest? fuel r).map fun (vs, r) => (v :: vs, r)
      | _ => none

/-- One or more fields and the brace that closes their object. -/
def fieldsRest? : Nat → List Char → Option (List (String × Json) × List Char)
  | 0, _ => none
  | fuel + 1, cs =>
    match skipSpace cs with
    | '"' :: r =>
      match stringRest? r with
      | none => none
      | some (key, r) =>
        match skipSpace r with
        | ':' :: r =>
          match valueRest? fuel r with
          | none => none
          | some (v, r) =>
            match skipSpace r with
            | '\x7d' :: r => some ([(String.ofList key, v)], r)
            | ',' :: r =>
              (fieldsRest? fuel r).map fun (fs, r) => ((String.ofList key, v) :: fs, r)
            | _ => none
        | _ => none
    | _ => none

end

/-- The value that a text consists of, white space around it apart. -/
def parse? (s : String) : Option Json :=
  match valueRest? (2 * s.toList.length + 1) s.toList with
  | some (v, rest) => if (skipSpace rest).isEmpty then some v else none
  | none => none

end ScanQuery.Json
