/-!
TOML values. Numbers with a fraction and moments are told apart from other values and not looked
into, because no setting is one. A table remembers how it came about, which decides whether it may
still be extended: by being on the way to another table, by a dotted key, by a header of its own,
or as a value in braces.
-/

namespace ScanQuery.Toml

/-- What can be wrong with a document. -/
inductive Fault where
  | malformed (part : String)
  | duplicate (key : String)
  | notTable (key : String)
  | wrongType (field : String)
  | tooDeep (part : String)
  deriving DecidableEq, Repr

/-- The reason in words. -/
def Fault.message : Fault → String
  | malformed part => "malformed " ++ part
  | duplicate key => "'" ++ key ++ "' is defined twice"
  | notTable key => "'" ++ key ++ "' is not a table"
  | wrongType field => "'" ++ field ++ "' has a value of the wrong type"
  | tooDeep part => part ++ " with too many levels"

/-- How a table came about. -/
inductive Origin where
  | passing
  | dotted
  | header
  | braces
  deriving DecidableEq, Repr

/-- A value. -/
inductive Value where
  | string (s : String)
  | integer (n : Int)
  | float
  | boolean (b : Bool)
  | moment
  | array (elements : List Value)
  | table (origin : Origin) (fields : List (String × Value))
  | tables (elements : List Value)
  deriving Inhabited

/-- The fields of a table. -/
abbrev Fields := List (String × Value)

/-- The fields with the value under a key replaced or put at the end. -/
def Fields.put (fields : Fields) (key : String) (v : Value) : Fields :=
  match fields with
  | [] => [(key, v)]
  | (k, w) :: rest => if k = key then (key, v) :: rest else (k, w) :: Fields.put rest key v

/-- The table that keys lead to, changed by `change`. Tables that are not there come about on the
way; of tables in a list the last one is meant. A dotted key may not lead into a table that has a
header of its own. -/
def changeAt (byDots : Bool) (change : Origin → Fields → Except Fault Fields) :
    List String → Origin → Fields → Except Fault Fields
  | [], origin, fields => change origin fields
  | key :: rest, _, fields =>
    match fields.lookup key with
    | none => do
      let origin := if byDots then .dotted else .passing
      return fields.put key (.table origin (← changeAt byDots change rest origin []))
    | some (.table .braces _) => .error (.notTable key)
    | some (.table origin inner) =>
      if byDots ∧ origin = .header then .error (.duplicate key)
      else do return fields.put key (.table origin (← changeAt byDots change rest origin inner))
    | some (.tables elements) =>
      match elements.getLast? with
      | some (.table origin inner) => do
        let last := Value.table origin (← changeAt byDots change rest origin inner)
        return fields.put key (.tables (elements.dropLast ++ [last]))
      | _ => .error (.notTable key)
    | some _ => .error (.notTable key)

/-- The fields with a value under a dotted key, given by the keys before the last dot and the last
one. -/
def define (above : List String) (key : String) (v : Value) (origin : Origin) (fields : Fields) :
    Except Fault Fields :=
  changeAt true (fun origin inner =>
    if (origin = .dotted) = above.isEmpty then .error (.duplicate key)
    else if (inner.lookup key).isSome then .error (.duplicate key)
    else .ok (inner.put key v)) above origin fields

end ScanQuery.Toml
