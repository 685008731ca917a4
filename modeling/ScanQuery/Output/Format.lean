import ScanQuery.Text.Blank
import ScanQuery.Text.Case

/-!
The built-in output formats. `auto` stands for the list or the table, as the layout of the result
decides.
-/

namespace ScanQuery

/-- A built-in output format. -/
inductive Format where
  | auto
  | list
  | table
  | json
  deriving DecidableEq, Inhabited, Repr

namespace Format

/-- The formats in the order in which they are named to the user. -/
def all : List Format :=
  [auto, list, table, json]

/-- The name of a format. -/
def name : Format → String
  | auto => "auto"
  | list => "list"
  | table => "table"
  | json => "json"

/-- The spelling under which a format is looked up: trimmed and in ASCII lower case. -/
def spelling (text : String) : String :=
  Text.asciiLower (Text.trim text)

/-- The format that a text names. -/
def parse? (text : String) : Option Format :=
  all.find? (·.name = spelling text)

end Format

end ScanQuery
