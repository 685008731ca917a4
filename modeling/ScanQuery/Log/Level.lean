import ScanQuery.Text.Blank
import ScanQuery.Text.Case

/-!
How severe an event is. The levels are ordered from errors to debugging notes; a log that admits
one level admits every more severe one.
-/

namespace ScanQuery.Log

/-- The level of an event. -/
inductive Level where
  | error
  | warning
  | info
  | debug
  deriving DecidableEq, Inhabited, Repr

namespace Level

/-- The place of a level in the order, the most severe first. -/
def rank : Level → Nat
  | error => 0
  | warning => 1
  | info => 2
  | debug => 3

instance : LE Level := ⟨fun a b => a.rank ≤ b.rank⟩

instance (a b : Level) : Decidable (a ≤ b) :=
  inferInstanceAs (Decidable (a.rank ≤ b.rank))

/-- The name of a level in a log line. -/
def tag : Level → String
  | error => "ERROR"
  | warning => "WARN"
  | info => "INFO"
  | debug => "DEBUG"

/-- The name of a level in a settings file. -/
def name : Level → String
  | error => "error"
  | warning => "warning"
  | info => "info"
  | debug => "debug"

/-- The level that bears a name exactly. -/
def ofName? (text : String) : Option Level :=
  [error, warning, info, debug].find? (·.name = text)

/-- The level that a user means: any ASCII case, white space around it, and `warn` for
`warning`. -/
def parse? (text : String) : Option Level :=
  let folded := Text.asciiLower (Text.trim text)
  if folded = "warn" then some warning else ofName? folded

end Level

end ScanQuery.Log
