import ScanQuery.Text.Blank
import ScanQuery.Text.Case
import ScanQuery.Text.Decimal

/-!
The severity scale of scan reports: five levels with the ordinals 0 to 4. A level is written as
a three-letter code in queries and settings, as a capitalised label in reports, and as a digit
in scan results. Every reading is total: a text that names no level stands for the lowest one,
so a damaged attribute degrades a finding and loses none.
-/

namespace ScanQuery

/-- A level of the severity scale. -/
inductive Severity where
  | informational
  | low
  | medium
  | high
  | critical
  deriving DecidableEq, Inhabited, Repr

namespace Severity

/-- The levels in ascending order. -/
def all : List Severity :=
  [informational, low, medium, high, critical]

/-- The place of a level on the scale. -/
def ordinal : Severity → Nat
  | informational => 0
  | low => 1
  | medium => 2
  | high => 3
  | critical => 4

instance : LE Severity := ⟨fun a b => a.ordinal ≤ b.ordinal⟩

instance (a b : Severity) : Decidable (a ≤ b) :=
  inferInstanceAs (Decidable (a.ordinal ≤ b.ordinal))

/-- The code of a level in queries and settings. -/
def code : Severity → String
  | informational => "non"
  | low => "low"
  | medium => "med"
  | high => "hig"
  | critical => "cri"

/-- The label of a level in reports. -/
def label : Severity → String
  | informational => "Non"
  | low => "Low"
  | medium => "Med"
  | high => "Hig"
  | critical => "Cri"

/-- The level with a code, in any ASCII case. -/
def ofCode (text : String) : Severity :=
  let folded := Text.asciiLower text
  if folded = "cri" then critical
  else if folded = "hig" then high
  else if folded = "med" then medium
  else if folded = "low" then low
  else informational

theorem ofCode_code (level : Severity) : ofCode level.code = level := by
  cases level <;> decide

/-- The level with an ordinal. -/
def ofOrdinal (n : Int) : Severity :=
  if n = 4 then critical
  else if n = 3 then high
  else if n = 2 then medium
  else if n = 1 then low
  else informational

/-- The level named by a single digit. -/
def ofDigit (text : String) : Severity :=
  if text = "4" then critical
  else if text = "3" then high
  else if text = "2" then medium
  else if text = "1" then low
  else informational

/-- The number in the severity attribute of a scan result, `0` when it holds no integer of 64
bits. White space around the number does not count. -/
def reportOrdinal (raw : String) : Int :=
  (Text.int64? (Text.trim raw)).getD 0

/-- The level shown for the severity attribute of a scan result. -/
def ofReport (raw : String) : Severity :=
  ofDigit (Text.trim raw)

end Severity

end ScanQuery
