import ScanQuery.Text.Decimal
import ScanQuery.Toml.Value

/-!
Numbers and moments of TOML, recognised by their spelling.
-/

namespace ScanQuery.Toml

/-- Digits with single underscores between them. -/
def isDigitRun (isDigit : Char → Bool) : List Char → Bool
  | [] => false
  | [c] => isDigit c
  | c :: '_' :: rest => isDigit c && isDigitRun isDigit rest
  | c :: rest => isDigit c && isDigitRun isDigit rest

/-- The text without a sign at its start. -/
def dropSign : List Char → List Char
  | '+' :: cs => cs
  | '-' :: cs => cs
  | cs => cs

/-- Decimal digits without a superfluous zero in front. -/
def isDecimal (cs : List Char) : Bool :=
  isDigitRun Char.isDigit cs && (cs.length == 1 || cs.head? != some '0')

/-- The value of a digit in a base of at most sixteen. -/
def digitIn (c : Char) : Nat :=
  if c.isDigit then c.toNat - '0'.toNat else c.toLower.toNat - 'a'.toNat + 10

/-- Whether a character is a hexadecimal digit. -/
def isHexDigit (c : Char) : Bool :=
  c.isDigit || ('a' ≤ c.toLower && c.toLower ≤ 'f')

/-- The number of digits in a base, underscores apart. -/
def digitsIn (base : Nat) (cs : List Char) : Nat :=
  (cs.filter (· != '_')).foldl (fun n c => base * n + digitIn c) 0

/-- The integer that a text spells, when it has at most 64 bits. -/
def integer? (cs : List Char) : Option Int :=
  let inRange (n : Int) : Option Int := if Text.inInt64 n then some n else none
  match cs with
  | '0' :: 'x' :: ds =>
    if isDigitRun isHexDigit ds then inRange (digitsIn 16 ds) else none
  | '0' :: 'o' :: ds =>
    if isDigitRun (fun c => '0' ≤ c && c ≤ '7') ds then inRange (digitsIn 8 ds) else none
  | '0' :: 'b' :: ds =>
    if isDigitRun (fun c => c == '0' || c == '1') ds then inRange (digitsIn 2 ds) else none
  | _ =>
    if isDecimal (dropSign cs) then
      let n : Int := digitsIn 10 (dropSign cs)
      inRange (if cs.head? = some '-' then -n else n)
    else none

/-- Whether a text spells a number with a fraction, an exponent or no finite value. -/
def isFloat (cs : List Char) : Bool :=
  let body := dropSign cs
  let whole := body.takeWhile fun c => c.isDigit || c == '_'
  let rest := body.drop whole.length
  let isExponent (cs : List Char) : Bool :=
    match cs with
    | 'e' :: cs => isDigitRun Char.isDigit (dropSign cs)
    | 'E' :: cs => isDigitRun Char.isDigit (dropSign cs)
    | _ => false
  if body = "inf".toList ∨ body = "nan".toList then true
  else
    isDecimal whole &&
      match rest with
      | '.' :: rest =>
        let fraction := rest.takeWhile fun c => c.isDigit || c == '_'
        let exponent := rest.drop fraction.length
        isDigitRun Char.isDigit fraction && (exponent.isEmpty || isExponent exponent)
      | rest => isExponent rest

/-- The bound of binary64 above which a number has no nearest finite value: halfway between the
greatest finite value and the next power of two. -/
def finiteBound : Nat :=
  (2 * 0x20000000000000 - 1) <<< 970

/-- Whether a number with a fraction or an exponent is too large to be finite, given by the digits
of its whole part and its fraction and by its exponent. Only numbers of 309 digits before the point
need a closer look. -/
def exceeds (whole fraction : List Char) (exponent : Int) : Bool :=
  let digits := (whole ++ fraction).dropWhile (· == '0')
  let shift := exponent - fraction.length
  let before := digits.length + shift
  if digits.isEmpty || before < 309 then false
  else if 309 < before then true
  else finiteBound * Nat.pow 10 (-shift).toNat ≤ digitsIn 10 digits * Nat.pow 10 shift.toNat

/-- Whether a text that spells a number stands for one above all finite ones. -/
def isTooLarge (cs : List Char) : Bool :=
  let digits := cs.filter (· != '_')
  let whole := digits.takeWhile Char.isDigit
  let rest := digits.drop whole.length
  let fraction :=
    match rest with
    | '.' :: rest => rest.takeWhile Char.isDigit
    | _ => []
  let exponent := (rest.dropWhile fun c => c != 'e' && c != 'E').drop 1
  exceeds whole fraction ((Text.integer? exponent).getD 0)

/-! ### Moments -/

/-- A number of a given count of digits within bounds, and what follows it. -/
def fieldRest? (count low high : Nat) (cs : List Char) : Option (Nat × List Char) :=
  let digits := cs.take count
  let n := Text.digitsValue digits
  if digits.length = count ∧ digits.all Char.isDigit ∧ low ≤ n ∧ n ≤ high then
    some (n, cs.drop count)
  else none

/-- What follows a character that must come first. -/
def afterChar? (c : Char) : List Char → Option (List Char)
  | d :: rest => if d = c then some rest else none
  | [] => none

/-- The number of days in a month. -/
def daysIn (year month : Nat) : Nat :=
  if month = 2 then
    if year % 4 = 0 ∧ (year % 100 ≠ 0 ∨ year % 400 = 0) then 29 else 28
  else if month = 4 ∨ month = 6 ∨ month = 9 ∨ month = 11 then 30
  else 31

/-- A date at the start of a text is passed over. -/
def dateRest? (cs : List Char) : Option (List Char) := do
  let (year, cs) ← fieldRest? 4 0 9999 cs
  let (month, cs) ← fieldRest? 2 1 12 (← afterChar? '-' cs)
  let (_, cs) ← fieldRest? 2 1 (daysIn year month) (← afterChar? '-' cs)
  return cs

/-- A time of day at the start of a text is passed over. -/
def timeRest? (cs : List Char) : Option (List Char) := do
  let (_, cs) ← fieldRest? 2 0 23 cs
  let (_, cs) ← fieldRest? 2 0 59 (← afterChar? ':' cs)
  let (_, cs) ← fieldRest? 2 0 60 (← afterChar? ':' cs)
  match cs with
  | '.' :: fraction =>
    let digits := fraction.takeWhile Char.isDigit
    if digits.isEmpty then none else return fraction.drop digits.length
  | cs => return cs

/-- A time zone at the start of a text is passed over, if there is one. -/
def zoneRest? (cs : List Char) : Option (List Char) :=
  match cs with
  | [] => some []
  | c :: rest =>
    if c = 'Z' ∨ c = 'z' then some rest
    else if c = '+' ∨ c = '-' then do
      let (_, rest) ← fieldRest? 2 0 23 rest
      let (_, rest) ← fieldRest? 2 0 59 (← afterChar? ':' rest)
      return rest
    else some (c :: rest)

/-- A moment at the start of a text is passed over: a time of day, a date, or both. -/
def momentRest? (cs : List Char) : Option (List Char) :=
  match timeRest? cs with
  | some rest => some rest
  | none => do
    let rest ← dateRest? cs
    match rest with
    | c :: time =>
      if c = 'T' ∨ c = 't' ∨ c = ' ' then
        match timeRest? time with
        | some rest => zoneRest? rest
        | none => some (c :: time)
      else some (c :: time)
    | [] => some []

/-- A character of a number. -/
def inNumber (c : Char) : Bool :=
  c.isAlphanum || c == '_' || c == '+' || c == '-' || c == '.'

/-- The number or moment at the start of a text, and what follows it. -/
def scalarRest? (cs : List Char) : Option (Value × List Char) :=
  match momentRest? cs with
  | some rest => some (.moment, rest)
  | none =>
    let token := cs.takeWhile inNumber
    let rest := cs.drop token.length
    if isFloat token then
      if token.head? ≠ some '-' ∧ isTooLarge (dropSign token) then none
      else some (.float, rest)
    else (integer? token).map fun n => (.integer n, rest)

end ScanQuery.Toml
