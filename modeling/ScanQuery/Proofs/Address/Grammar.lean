import Mathlib
import ScanQuery.Proofs.Text.Numerals

/-!
The grammar of addresses. An address of version 4 is four octets in decimal with points between
them. One of version 6 is eight groups of hexadecimal digits with colons between them; `::` stands
for one or more groups that are zero, and the last two groups may be written as an address of
version 4. Both kinds denote numbers of 128 bits, those of version 4 behind a fixed prefix.
-/

namespace ScanQuery.Address

/-! ### Version 4 -/

/-- Four octets in dotted decimal. -/
def dotted (a b c d : Fin 256) : String :=
  toString a.val ++ "." ++ toString b.val ++ "." ++ toString c.val ++ "." ++ toString d.val

/-- The number of 32 bits that four octets denote. -/
def number (a b c d : Fin 256) : Nat :=
  ((a.val * 256 + b.val) * 256 + c.val) * 256 + d.val

/-! ### Version 6 -/

/-- The character is the digit for a number below sixteen, in either case. -/
def HexDigit (c : Char) (v : Nat) : Prop :=
  v < 16 ∧ (c = v.digitChar ∨ c = v.digitChar.toUpper)

/-- One to four hexadecimal digits for a number of 16 bits. -/
def GroupText (cs : List Char) (g : Nat) : Prop :=
  cs ≠ [] ∧ cs.length ≤ 4 ∧
    ∃ values, List.Forall₂ HexDigit cs values ∧ g = Nat.ofDigits 16 values.reverse

/-- One or more groups with colons between them; where the ending is free, the last two may be
written as four octets. -/
inductive GroupsText (free : Bool) : List Char → List Nat → Prop where
  | single {cs : List Char} {g : Nat} (h : GroupText cs g) : GroupsText free cs [g]
  | octets (hfree : free = true) (a b c d : Fin 256) :
      GroupsText free (dotted a b c d).toList [256 * a.val + b.val, 256 * c.val + d.val]
  | cons {cs ds : List Char} {g : Nat} {gs : List Nat} (h : GroupText cs g)
      (hrest : GroupsText free ds gs) : GroupsText free (cs ++ ':' :: ds) (g :: gs)

/-- What stands on one side of `::`, which may be nothing. -/
def SideText (free : Bool) (cs : List Char) (gs : List Nat) : Prop :=
  (cs = [] ∧ gs = []) ∨ GroupsText free cs gs

/-- The text of eight groups, of which a run of zeros may be left out. -/
inductive EightGroups : List Char → List Nat → Prop where
  | whole {cs : List Char} {gs : List Nat} (h : GroupsText true cs gs) (hlength : gs.length = 8) :
      EightGroups cs gs
  | elided {cs ds : List Char} {gs hs : List Nat} {zeros : Nat} (hfront : SideText false cs gs)
      (hback : SideText true ds hs) (hzeros : 0 < zeros)
      (hlength : gs.length + zeros + hs.length = 8) :
      EightGroups (cs ++ ':' :: ':' :: ds) (gs ++ List.replicate zeros 0 ++ hs)

/-- The text is an address, and the number its value. -/
inductive Denotes : List Char → Nat → Prop where
  | octets (a b c d : Fin 256) : Denotes (dotted a b c d).toList (0xFFFF * 2 ^ 32 + number a b c d)
  | groups {cs : List Char} {gs : List Nat} (h : EightGroups cs gs) :
      Denotes cs (Nat.ofDigits (2 ^ 16) gs.reverse)

/-! ### What the texts are made of -/

theorem toList_dotted (a b c d : Fin 256) :
    (dotted a b c d).toList = Nat.toDigits 10 a ++ ('.' :: (Nat.toDigits 10 b ++
      ('.' :: (Nat.toDigits 10 c ++ ('.' :: Nat.toDigits 10 d))))) := by
  simp [dotted, Nat.toList_repr]

theorem GroupsText.of_closed {free : Bool} {cs : List Char} {gs : List Nat}
    (h : GroupsText free cs gs) : GroupsText true cs gs := by
  induction h with
  | single h => exact .single h
  | octets _ a b c d => exact .octets rfl a b c d
  | cons h _ ih => exact .cons h ih

end ScanQuery.Address
