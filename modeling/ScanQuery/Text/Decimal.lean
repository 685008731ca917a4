/-!
Decimal numbers in text: one or more ASCII digits, with a sign where one is allowed. A number
outside the range of its kind is not read.
-/

namespace ScanQuery.Text

/-- The value of a digit. -/
def digitValue (c : Char) : Nat :=
  c.toNat - '0'.toNat

/-- The number that a list of digits denotes. -/
def digitsValue (cs : List Char) : Nat :=
  cs.foldl (fun n c => 10 * n + digitValue c) 0

/-- The number written with one or more digits and nothing else. -/
def natural? (cs : List Char) : Option Nat :=
  if cs.isEmpty || !cs.all Char.isDigit then none else some (digitsValue cs)

/-- The integer written with an optional sign and one or more digits. -/
def integer? : List Char → Option Int
  | '+' :: cs => (natural? cs).map Int.ofNat
  | '-' :: cs => (natural? cs).map fun n => -Int.ofNat n
  | cs => (natural? cs).map Int.ofNat

/-- Whether an integer has at most 64 bits, the sign among them. -/
def inInt64 (n : Int) : Bool :=
  -0x8000000000000000 ≤ n && n < 0x8000000000000000

/-- The signed integer of 64 bits written in a text. -/
def int64? (s : String) : Option Int :=
  (integer? s.toList).filter inInt64

/-- The natural number of 32 bits written in a text, with an optional plus sign. -/
def nat32? (s : String) : Option Nat :=
  let digits := match s.toList with
    | '+' :: cs => cs
    | cs => cs
  (natural? digits).filter (· < 0x100000000)

end ScanQuery.Text
