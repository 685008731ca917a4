import ScanQuery.Template.Fault
import ScanQuery.Text.Radix

/-!
Literals of templates: strings in quotes of either kind, and numbers. A number with a fraction or
an exponent can be written, but only whole numbers have a value.

A backslash in a string begins an escape. A letter, three octal digits, or `x` and `u` with
hexadecimal digits stand for one character; a backslash before anything else stands for itself.
A character beyond the basic plane is written as a pair of surrogates, and half a pair is an error.
-/

namespace ScanQuery.Template

/-! ### Strings -/

/-- The characters up to the quote that closes a string, and what follows it. A character behind a
backslash closes nothing. -/
def rawStringRest? (quote : Char) : List Char → Option (List Char × List Char)
  | [] => none
  | '\\' :: c :: rest => (rawStringRest? quote rest).map fun (cs, r) => ('\\' :: c :: cs, r)
  | c :: rest =>
    if c = quote then some ([], rest)
    else (rawStringRest? quote rest).map fun (cs, r) => (c :: cs, r)

/-- The character that a letter or mark behind a backslash stands for. -/
def letterEscape? (c : Char) : Option Char :=
  if c = '"' ∨ c = '\'' ∨ c = '\\' ∨ c = '/' then some c
  else if c = 'b' then some '\x08'
  else if c = 'f' then some '\x0c'
  else if c = 'n' then some '\n'
  else if c = 'r' then some '\r'
  else if c = 't' then some '\t'
  else none

/-- The code that hexadecimal digits denote, before which a plus sign may stand. -/
def escapeCode? : List Char → Option Nat
  | '+' :: digits => Text.numberIn? 16 digits
  | digits => Text.numberIn? 16 digits

/-- Whether a code is half of a pair of surrogates. -/
def isSurrogate (code : Nat) : Bool :=
  0xD800 ≤ code && code < 0xE000

/-- The character of a pair of surrogates. -/
def pairedChar? (high low : Nat) : Option Char :=
  if 0xD800 ≤ high ∧ high < 0xDC00 ∧ 0xDC00 ≤ low ∧ low < 0xE000 then
    some (Char.ofNat (0x10000 + (high - 0xD800) * 0x400 + (low - 0xDC00)))
  else none

/-- Whether a character is a digit of base eight. -/
def isOctal (c : Char) : Bool :=
  (Text.digitIn? 8 c).isSome

/-- The character with a code written in octal digits, which must fit a byte. -/
def octalChar? (digits : List Char) : Option Char :=
  ((Text.numberIn? 8 digits).filter (· < 0x100)).map Char.ofNat

/-- The text that the inside of a string stands for. -/
def unescape? : List Char → Option (List Char)
  | [] => some []
  | '\\' :: 'u' :: a :: b :: c :: d :: rest =>
    match escapeCode? [a, b, c, d] with
    | none => none
    | some code =>
      if isSurrogate code then
        match rest with
        | '\\' :: 'u' :: e :: f :: g :: h :: rest => do
          let char ← pairedChar? code (← escapeCode? [e, f, g, h])
          return char :: (← unescape? rest)
        | _ => none
      else (unescape? rest).map (Char.ofNat code :: ·)
  | '\\' :: 'x' :: a :: b :: rest => do
    let code ← escapeCode? [a, b]
    return Char.ofNat code :: (← unescape? rest)
  | '\\' :: a :: rest =>
    if isOctal a then
      match rest with
      | b :: c :: rest' =>
        if isOctal b then
          if isOctal c then do return (← octalChar? [a, b, c]) :: (← unescape? rest')
          else do return (← octalChar? [a, b]) :: (← unescape? (c :: rest'))
        else do return (← octalChar? [a]) :: (← unescape? (b :: c :: rest'))
      | [b] =>
        if isOctal b then do return [← octalChar? [a, b]] else do return [← octalChar? [a], b]
      | [] => do return [← octalChar? [a]]
    else if a = 'u' ∨ a = 'x' then none
    else
      match letterEscape? a with
      | some c => (unescape? rest).map (c :: ·)
      | none => (unescape? rest).map fun cs => '\\' :: a :: cs
  | c :: rest => (unescape? rest).map (c :: ·)

/-- The text of a string behind its opening quote, and what follows the string. -/
def stringRest? (quote : Char) (cs : List Char) : Option (String × List Char) := do
  let (inside, rest) ← rawStringRest? quote cs
  return (String.ofList (← unescape? inside), rest)

/-! ### Numbers -/

/-- The largest whole number that can be written. -/
def largestLiteral : Nat := 0xFFFFFFFFFFFFFFFFFFFFFFFFFFFFFFFF

/-- The base that a number's first characters name, and what follows them. -/
def radixRest : List Char → Nat × List Char
  | '0' :: mark :: rest =>
    if mark.toLower = 'x' then (16, rest)
    else if mark.toLower = 'o' then (8, rest)
    else if mark.toLower = 'b' then (2, rest)
    else (10, '0' :: mark :: rest)
  | cs => (10, cs)

/-- A character of a number in a base; underscores may stand between digits. -/
def inNumber (base : Nat) (c : Char) : Bool :=
  c.isDigit || c == '_' || (base == 16 && (Text.digitIn? 16 c).isSome)

/-- A character with which a name may begin. -/
def startsName (c : Char) : Bool :=
  c.isAlpha || c == '_'

/-- What follows a point and the digits behind it. A point before a name is no part of a number. -/
def fractionRest? : List Char → Option (List Char)
  | '.' :: cs => if cs.head?.any startsName then none else some (cs.dropWhile (inNumber 10))
  | _ => none

/-- The digits of an exponent, and what follows it. -/
def exponentRest? : List Char → Option (List Char × List Char)
  | c :: cs =>
    if c = 'e' ∨ c = 'E' then
      let unsigned := if cs.head? = some '+' ∨ cs.head? = some '-' then cs.tail else cs
      let digits := unsigned.takeWhile (inNumber 10)
      some (digits, unsigned.drop digits.length)
    else none
  | [] => none

/-- The value of a number in a base that is written with some digits. -/
def wholeNumber (base : Nat) (digits : List Char) : Except Fault Nat :=
  match Text.numberIn? base (digits.filter (· != '_')) with
  | some n => if n ≤ largestLiteral then .ok n else .error .badNumber
  | none => .error .badNumber

/-- The number at the start of a text, whose value is known if it is whole, and what follows it. -/
def numberRest (cs : List Char) : Except Fault (Option Nat × List Char) := do
  let (base, digits) := radixRest cs
  let written := digits.takeWhile (inNumber base)
  let rest := digits.drop written.length
  let fraction := if base = 10 then fractionRest? rest else none
  let exponent := if base = 10 then exponentRest? (fraction.getD rest) else none
  let (value, rest) ← match exponent, fraction with
    | some (power, rest), _ =>
      if power.any Char.isDigit then pure (none, rest) else .error .badNumber
    | none, some rest => pure (none, rest)
    | none, none => do pure (some (← wholeNumber base written), rest)
  if (cs.take (cs.length - rest.length)).getLast? = some '_' then .error .badNumber
  else return (value, rest)

end ScanQuery.Template
