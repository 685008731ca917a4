import ScanQuery.Json.Basic
import ScanQuery.KeyMap

/-!
Decoding JSON values. A decoder says of a value what it stands for, or nothing when it has another
shape. Decoders of records ask for their fields by name and pass over all other fields; an optional
field may be missing or `null`.
-/

namespace ScanQuery.Json

variable {α : Type}

/-- A text. -/
def text? : Json → Option String
  | string s => some s
  | _ => none

/-- A truth value. -/
def truth? : Json → Option Bool
  | bool b => some b
  | _ => none

/-- A number that is not negative. -/
def natural? : Json → Option Nat
  | number (.ofNat n) => some n
  | _ => none

/-- The elements of an array. -/
def list? (decode : Json → Option α) : Json → Option (List α)
  | array vs => vs.mapM decode
  | _ => none

/-- A field with its value decoded. -/
def decodeField? (decode : Json → Option α) (field : String × Json) : Option (String × α) :=
  (decode field.2).map fun a => (field.1, a)

/-- The fields of an object as a map. -/
def map? (decode : Json → Option α) : Json → Option (KeyMap α)
  | object fields => (fields.mapM (decodeField? decode)).map KeyMap.ofList
  | _ => none

/-- A field that must be there. -/
def required? (name : String) (decode : Json → Option α) (v : Json) : Option α :=
  (v.field? name).bind decode

/-- A field that may be missing. -/
def optional? (name : String) (decode : Json → Option α) (v : Json) : Option (Option α) :=
  match v.field? name with
  | none => some none
  | some null => some none
  | some w => (decode w).map some

/-- The texts of a list as an array. -/
def texts (ss : List String) : Json :=
  array (ss.map string)

/-- A field that is left out when it has no value. -/
def optionalField (name : String) (value : Option String) : List (String × Json) :=
  match value with
  | some s => [(name, string s)]
  | none => []

end ScanQuery.Json
