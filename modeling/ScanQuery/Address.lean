import ScanQuery.Text.Blank
import ScanQuery.Text.Decimal

/-!
Network addresses and their order. A text that is an address, up to white space around it, has a
value: the number that its 128 bits denote, where an address of version 4 stands for its image
among those of version 6. Addresses are ordered by value; every other text comes before every
address; and texts that do not differ so far are ordered as texts. The order is total and tells
any two texts apart.

An address of version 4 is four numbers below 256, in decimal and without superfluous zeros. One
of version 6 is eight groups of up to four hexadecimal digits, of which `::` may stand for a run
of one or more zero groups, and of which the last two may be written as an address of version 4.
-/

namespace ScanQuery.Address

/-- A number of one to three digits, below 256 and not written with a superfluous zero, and what
follows it. -/
def octetRest? (cs : List Char) : Option (Nat × List Char) :=
  let digits := cs.takeWhile Char.isDigit
  let value := Text.digitsValue digits
  if digits.isEmpty || 3 < digits.length || 255 < value ||
      (digits.head? == some '0' && 1 < digits.length) then none
  else some (value, cs.dropWhile Char.isDigit)

/-- What follows `c` in a text that begins with it. -/
def after? (c : Char) : List Char → Option (List Char)
  | d :: rest => if d = c then some rest else none
  | [] => none

/-- The four numbers of an address of version 4 at the start of a text, and what follows. -/
def v4Rest? (cs : List Char) : Option ((Nat × Nat × Nat × Nat) × List Char) := do
  let (a, cs) ← octetRest? cs
  let (b, cs) ← octetRest? (← after? '.' cs)
  let (c, cs) ← octetRest? (← after? '.' cs)
  let (d, cs) ← octetRest? (← after? '.' cs)
  return ((a, b, c, d), cs)

/-- The value of a hexadecimal digit. -/
def hexValue? (c : Char) : Option Nat :=
  let lower := c.toLower
  if c.isDigit then some (Text.digitValue c)
  else if 'a' ≤ lower ∧ lower ≤ 'f' then some (lower.toNat - 'a'.toNat + 10)
  else none

/-- A group of one to four hexadecimal digits, and what follows it. -/
def groupRest? (cs : List Char) : Option (Nat × List Char) :=
  let digits := cs.takeWhile fun c => (hexValue? c).isSome
  if digits.isEmpty || 4 < digits.length then none
  else
    some (digits.foldl (fun n c => 16 * n + (hexValue? c).getD 0) 0, cs.drop digits.length)

/-- What a run of groups at the start of a text gives. -/
structure Groups where
  groups : List Nat
  endsInV4 : Bool
  rest : List Char

/-- Up to `limit` groups, separated by colons. Where two groups are still allowed, an address of
version 4 may stand for them and ends the run. -/
def readGroups (first : Bool) : Nat → List Char → Groups
  | 0, cs => ⟨[], false, cs⟩
  | limit + 1, cs =>
    match if first then some cs else after? ':' cs with
    | none => ⟨[], false, cs⟩
    | some body =>
      match if 1 ≤ limit then v4Rest? body else none with
      | some ((a, b, c, d), rest) => ⟨[256 * a + b, 256 * c + d], true, rest⟩
      | none =>
        match groupRest? body with
        | none => ⟨[], false, cs⟩
        | some (group, rest) =>
          let more := readGroups false limit rest
          ⟨group :: more.groups, more.endsInV4, more.rest⟩

/-- The eight groups of an address of version 6 at the start of a text, and what follows. -/
def v6Rest? (cs : List Char) : Option (List Nat × List Char) :=
  let front := readGroups true 8 cs
  if front.groups.length = 8 then some (front.groups, front.rest)
  else if front.endsInV4 then none
  else do
    let rest ← after? ':' (← after? ':' front.rest)
    let back := readGroups true (7 - front.groups.length) rest
    let zeros := 8 - front.groups.length - back.groups.length
    return (front.groups ++ List.replicate zeros 0 ++ back.groups, back.rest)

/-- The number that groups of 16 bits denote. -/
def groupsValue (groups : List Nat) : Nat :=
  groups.foldl (fun n g => 0x10000 * n + g) 0

/-- The value of an address of version 4 among those of version 6. -/
def v4Value (a b c d : Nat) : Nat :=
  groupsValue [0, 0, 0, 0, 0, 0xFFFF, 256 * a + b, 256 * c + d]

/-- The value of a text that is an address. -/
def value? (text : String) : Option Nat :=
  let cs := Text.trimChars text.toList
  match v4Rest? cs with
  | some ((a, b, c, d), rest) => if rest.isEmpty then some (v4Value a b c d) else none
  | none =>
    match v6Rest? cs with
    | some (groups, rest) => if rest.isEmpty then some (groupsValue groups) else none
    | none => none

/-- The place of a text in the order by value: 0 for a text that is no address. -/
def rank (text : String) : Nat :=
  match value? text with
  | none => 0
  | some v => v + 1

/-- The order of addresses: by value, then by text. -/
def compareTexts (a b : String) : Ordering :=
  (compare (rank a) (rank b)).then (compare a b)

/-- The addresses in ascending order. -/
def sort (texts : List String) : List String :=
  texts.mergeSort fun a b => (compareTexts a b).isLE

end ScanQuery.Address
