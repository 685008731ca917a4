/-!
Numbers in a base of at most sixteen, written with the digits `0` to `9` and the letters `a` to `f`
in either case.
-/

namespace ScanQuery.Text

/-- The value of a digit in a base of at most sixteen. -/
def digitIn? (base : Nat) (c : Char) : Option Nat :=
  let lower := c.toLower
  let value :=
    if c.isDigit then some (c.toNat - '0'.toNat)
    else if 'a' ≤ lower ∧ lower ≤ 'f' then some (lower.toNat - 'a'.toNat + 10)
    else none
  value.filter (· < base)

/-- The number that one or more digits denote in a base. -/
def numberIn? (base : Nat) (cs : List Char) : Option Nat :=
  if cs.isEmpty then none else cs.foldlM (fun n c => (digitIn? base c).map (base * n + ·)) 0

end ScanQuery.Text
