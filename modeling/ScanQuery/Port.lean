import ScanQuery.Text.Blank
import ScanQuery.Text.Decimal
import ScanQuery.Text.Split

/-!
Port-keys. A finding is reported on a port and a protocol, which together make a key such as
`443/tcp`. Keys are ordered by the number before the slash and, where the numbers agree, by their
text; a key that does not begin with a number counts as 0. Sorting by this order gives one list
for a set of keys, however it was listed.
-/

namespace ScanQuery.Port

/-- The key of a port and a protocol. -/
def key (port protocol : String) : String :=
  port ++ "/" ++ protocol

/-- The text before the first slash, or the whole key. -/
def segment (key : String) : String :=
  match Text.splitOnce? "/" key with
  | some (port, _) => port
  | none => key

/-- The number before the first slash, `0` when there is none of 32 bits. -/
def number (key : String) : Nat :=
  (Text.nat32? (Text.trim (segment key))).getD 0

/-- The order of keys: by number, then by text. -/
def compareKeys (a b : String) : Ordering :=
  (compare (number a) (number b)).then (compare a b)

/-- The keys in ascending order. -/
def sortKeys (keys : List String) : List String :=
  keys.mergeSort fun a b => (compareKeys a b).isLE

end ScanQuery.Port
