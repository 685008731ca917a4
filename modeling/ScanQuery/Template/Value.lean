import ScanQuery.Json.Basic
import ScanQuery.Template.Fault
import ScanQuery.Text.Decimal
import ScanQuery.Text.Quoted
import ScanQuery.Text.Split

/-!
The values of templates: what a report holds, numbers, and what a loop tells of its present step.
A name or a part that is not there is undefined. An undefined value can be asked about, replaced
and given a name, but no operation takes it. Only the missing side of a choice is silent: it shows
nothing and counts as false.

Values are ordered by their kind first. Within a kind numbers, texts and truth values follow their
own order, and lists and maps are compared element by element.

Numbers are whole. Fractions are left out: a literal with one has no value, and neither has `/`,
whose results they would be.
-/

namespace ScanQuery.Template

/-- A value. A list that was made by joining others is of another kind than a plain one. -/
inductive Value where
  | undefined (silent : Bool)
  | null
  | bool (b : Bool)
  | number (n : Int)
  | string (s : String)
  | list (joined : Bool) (elements : List Value)
  | map (fields : List (String × Value))
  | loop (index : Nat) (count : Option Nat) (before after : Value)
  deriving Inhabited

namespace Value

/-- What stands for a name or a part that is not there. -/
def missing : Value :=
  .undefined false

mutual

/-- The value that JSON describes. -/
def ofJson : Json → Value
  | .null => .null
  | .bool b => .bool b
  | .number n => .number n
  | .string s => .string s
  | .array vs => .list false (ofElements vs)
  | .object fields => .map (ofFields fields)

/-- The values of the elements of an array. -/
def ofElements : List Json → List Value
  | [] => []
  | v :: vs => ofJson v :: ofElements vs

/-- The values of the fields of an object. -/
def ofFields : List (String × Json) → List (String × Value)
  | [] => []
  | (key, v) :: fields => (key, ofJson v) :: ofFields fields

end

/-- Whether a value is undefined. -/
def isUndefined : Value → Bool
  | .undefined _ => true
  | _ => false

/-- The value, unless it is undefined and not silent. -/
def required : Value → Except Fault Value
  | .undefined false => .error .undefinedValue
  | v => .ok v

/-! ### Text -/

/-- A step of a loop: how many came before it, and how many there are if that is known. -/
def loopText (index : Nat) (count : Option Nat) : String :=
  "<loop " ++ toString index ++ "/" ++ (count.map toString).getD "?" ++ ">"

mutual

/-- The text of a value inside a list or a map. -/
def inner : Value → String
  | .undefined _ => "undefined"
  | .null => "None"
  | .bool b => if b then "True" else "False"
  | .number n => toString n
  | .string s => Text.quoted s
  | .list _ vs => "[" ++ ", ".intercalate (innerElements vs) ++ "]"
  | .map fields => "\x7b" ++ ", ".intercalate (innerFields fields) ++ "\x7d"
  | .loop index count _ _ => loopText index count

/-- The texts of the elements of a list. -/
def innerElements : List Value → List String
  | [] => []
  | v :: vs => inner v :: innerElements vs

/-- The texts of the fields of a map. -/
def innerFields : List (String × Value) → List String
  | [] => []
  | (key, v) :: fields => (Text.quoted key ++ ": " ++ inner v) :: innerFields fields

end

/-- The text of a value: a string as it is, nothing for an undefined one, and anything else as
inside a list. -/
def display : Value → String
  | .undefined _ => ""
  | .string s => s
  | v => inner v

/-! ### Truth and order -/

/-- Whether a value counts as true: it is not empty, zero, false or none. -/
def truthy : Value → Except Fault Bool
  | .undefined silent => if silent then .ok false else .error .undefinedValue
  | .null => .ok false
  | .bool b => .ok b
  | .number n => .ok (n != 0)
  | .string s => .ok (!s.isEmpty)
  | .list _ vs => .ok (!vs.isEmpty)
  | .map fields => .ok (!fields.isEmpty)
  | .loop .. => .ok true

/-- The number that a value is or, as a truth value, stands for. -/
def number? : Value → Option Int
  | .number n => some n
  | .bool b => some (if b then 1 else 0)
  | _ => none

mutual

/-- Whether two values are the same. A truth value is the same as the number it stands for, and
maps are the same when they have the same fields in whatever order. -/
def same : Value → Value → Bool
  | .undefined _, .undefined _ => true
  | .null, .null => true
  | .string s, .string t => s = t
  | .list _ vs, .list _ ws => sameElements vs ws
  | .map fields, .map others => fields.length = others.length && sameFields fields others
  | .loop i m v w, .loop j n v' w' => i = j && m = n && same v v' && same w w'
  | v, w =>
    match v.number?, w.number? with
    | some m, some n => m = n
    | _, _ => false

/-- Whether two lists have the same elements. -/
def sameElements : List Value → List Value → Bool
  | [], [] => true
  | v :: vs, w :: ws => same v w && sameElements vs ws
  | _, _ => false

/-- Whether every field is also among others. -/
def sameFields : List (String × Value) → List (String × Value) → Bool
  | [], _ => true
  | (key, v) :: fields, others =>
    (match others.lookup key with
    | some w => same v w
    | none => false) && sameFields fields others

end

/-- The place of a value's kind among the kinds; a loop is a kind of map. -/
def rank : Value → Nat
  | .undefined _ => 0
  | .null => 1
  | .bool _ => 2
  | .number _ => 3
  | .string _ => 4
  | .list false _ => 5
  | .map _ => 6
  | .loop .. => 6
  | .list true _ => 7

/-- Whether an integer has at most 128 bits, the sign among them. -/
def inInt128 (n : Int) : Bool :=
  -0x80000000000000000000000000000000 ≤ n && n < 0x80000000000000000000000000000000

mutual

/-- The order of values. A loop stands among the maps by the first of the names it knows. -/
def order : Value → Value → Ordering
  | .bool a, .bool b => compare a b
  | .number m, .number n => compare m n
  | .string s, .string t => compare s t
  | .list j vs, .list k ws => (compare j k).then (orderElements vs ws)
  | .map fields, .map others => orderFields fields others
  | .loop i m v w, .loop j n v' w' =>
    ((compare i j).then (compare m n)).then ((order v v').then (order w w'))
  | .loop .., .map fields => (fields.head?.map (compare "index0" ·.1)).getD .gt
  | .map fields, .loop .. => (fields.head?.map (compare ·.1 "index0")).getD .lt
  | v, w => compare v.rank w.rank

/-- The order of lists by their first elements that differ. -/
def orderElements : List Value → List Value → Ordering
  | [], [] => .eq
  | [], _ => .lt
  | _, [] => .gt
  | v :: vs, w :: ws => (order v w).then (orderElements vs ws)

/-- The order of maps by their first fields that differ. -/
def orderFields : List (String × Value) → List (String × Value) → Ordering
  | [], [] => .eq
  | [], _ => .lt
  | _, [] => .gt
  | (key, v) :: fields, (other, w) :: others =>
    ((compare key other).then (order v w)).then (orderFields fields others)

end

/-! ### Parts -/

/-- What a loop tells under a name. How many steps there are is not known beforehand where a loop
runs through the characters of a text. -/
def loopPart (index : Nat) (count : Option Nat) (before after : Value) (name : String) : Value :=
  let counted (f : Nat → Value) : Value := (count.map f).getD missing
  if name = "index" then .number (index + 1)
  else if name = "index0" then .number index
  else if name = "length" then counted fun n => .number n
  else if name = "revindex" then counted fun n => .number (n - index : Nat)
  else if name = "revindex0" then counted fun n => .number (n - index - 1 : Nat)
  else if name = "first" then .bool (index == 0)
  else if name = "last" then .bool (count == some (index + 1))
  else if name = "depth" then .number 1
  else if name = "depth0" then .number 0
  else if name = "previtem" then before
  else if name = "nextitem" then after
  else missing

/-- The names under which a loop tells something. -/
def loopNames : List String :=
  ["index0", "index", "length", "revindex", "revindex0", "first", "last", "depth", "depth0",
    "previtem", "nextitem"]

/-- The part of a value with a name. An undefined value has no parts to ask for. -/
def field (v : Value) (name : String) : Except Fault Value :=
  match v with
  | .undefined _ => .error .undefinedValue
  | .map fields => .ok ((fields.lookup name).getD missing)
  | .loop index count before after => .ok (loopPart index count before after name)
  | _ => .ok missing

/-- The place that an index names among so many, from the end when it is negative. -/
def place? (count : Nat) (index : Value) : Option Nat := do
  let n ← index.number?
  if !Text.inInt64 n then none
  else
    let place := if n < 0 then n + count else n
    if place < 0 then none else some place.toNat

/-- The part of a value under a key or an index. -/
def item (v index : Value) : Except Fault Value :=
  match v, index with
  | .undefined _, _ => .error .undefinedValue
  | .list _ vs, index => .ok (((place? vs.length index).bind fun n => vs[n]?).getD missing)
  | .string s, index =>
    let char := (place? s.length index).bind fun n => s.toList[n]?
    .ok ((char.map fun c => .string (String.singleton c)).getD missing)
  | v, .string key => v.field key
  | _, _ => .ok missing

/-- The number of characters, elements or fields. -/
def length (v : Value) : Except Fault Value :=
  match v with
  | .string s => .ok (.number s.length)
  | .list _ vs => .ok (.number vs.length)
  | .map fields => .ok (.number fields.length)
  | .loop .. => .ok (.number loopNames.length)
  | _ => .error (.badOperand "length")

/-- The values that a loop runs through, and how many there are if a loop knows it beforehand. -/
def elements (v : Value) : Except Fault (List Value × Option Nat) :=
  let counted (vs : List Value) : List Value × Option Nat := (vs, some vs.length)
  match v with
  | .undefined silent => if silent then .ok (counted []) else .error .undefinedValue
  | .null => .ok (counted [])
  | .list _ vs => .ok (counted vs)
  | .map fields => .ok (counted (fields.map fun (key, _) => .string key))
  | .loop .. => .ok (counted (loopNames.map .string))
  | .string s => .ok (s.toList.map fun c => .string (String.singleton c), none)
  | _ => .error .notIterable

/-- The values that a list, or the keys that a map, shares out among several targets. -/
def parts (v : Value) : Except Fault (List Value) :=
  match v with
  | .list _ vs => .ok vs
  | .map fields => .ok (fields.map fun (key, _) => .string key)
  | .loop .. => .ok (loopNames.map .string)
  | _ => .error .notIterable

/-! ### Slices -/

/-- Every so many-th element of a list, behind a number of others that are passed over. -/
def everyOf {α : Type} (step : Nat) : Nat → List α → List α
  | _, [] => []
  | 0, x :: xs => x :: everyOf step (step - 1) xs
  | skipped + 1, _ :: xs => everyOf step skipped xs

/-- The elements of a list from one place up to another, of which every so many-th is taken. A
negative place is counted from the end. -/
def cut {α : Type} (start stop : Option Int) (step : Nat) (xs : List α) : List α :=
  let place (n : Int) : Nat := (if n < 0 then n + xs.length else n).toNat
  everyOf step 0 ((xs.take ((stop.map place).getD xs.length)).drop ((start.map place).getD 0))

/-- A bound of a slice, which may be left out. -/
def bound (v : Value) : Except Fault (Option Int) :=
  match v with
  | .null => .ok none
  | v =>
    match v.number?.filter Text.inInt64 with
    | some n => .ok (some n)
    | none => .error (.badOperand "slice")

/-- A part of a text or a list between two places. A step must lead forward. -/
def slice (v start stop step : Value) : Except Fault Value := do
  let v ← v.required
  let start ← bound start
  let stop ← bound stop
  let step := ((← bound step).getD 1).toNat
  match v, step with
  | _, 0 => .error (.badOperand "slice")
  | .string s, step => return .string (String.ofList (cut start stop step s.toList))
  | .list _ vs, step => return .list true (cut start stop step vs)
  | .undefined _, _ => return .list false []
  | .null, _ => return .list false []
  | _, _ => .error (.badOperand "slice")

/-! ### Operations -/

/-- The number that a value is or stands for, if it is one that can be reckoned with. -/
def operand (operation : String) (v : Value) : Except Fault Int :=
  match v.number?.filter inInt128 with
  | some n => .ok n
  | none => .error (.badOperand operation)

/-- What an operator makes of two numbers; neither they nor it may have more than 128 bits. -/
def arithmetic (operation : String) (f : Int → Int → Option Int) (v w : Value) :
    Except Fault Value := do
  match (f (← operand operation v) (← operand operation w)).filter inInt128 with
  | some n => return .number n
  | none => .error (.badOperand operation)

/-- The sum of two values: of numbers, or of texts or lists one after the other. -/
def add (v w : Value) : Except Fault Value :=
  match v, w with
  | .string s, .string t => .ok (.string (s ++ t))
  | .list _ vs, .list _ ws => .ok (.list true (vs ++ ws))
  | v, w => arithmetic "+" (fun m n => some (m + n)) v w

/-- The difference of two numbers. -/
def subtract (v w : Value) : Except Fault Value :=
  arithmetic "-" (fun m n => some (m - n)) v w

/-- The product of two numbers. -/
def multiply (v w : Value) : Except Fault Value :=
  arithmetic "*" (fun m n => some (m * n)) v w

/-- How often a number is contained in another, so that what remains is not negative. -/
def quotient (v w : Value) : Except Fault Value :=
  arithmetic "//" (fun m n => if n = 0 then none else some (Int.ediv m n)) v w

/-- What remains of a number behind the quotient. -/
def remainder (v w : Value) : Except Fault Value :=
  arithmetic "%" (fun m n => if n = 0 then none else some (Int.emod m n)) v w

/-- A number to the power of another. From an exponent of 128 on only its parity counts: powers of
0, 1 and -1 depend on nothing else, and any other has too many bits. -/
def power (v w : Value) : Except Fault Value :=
  let raise (m n : Int) : Option Int :=
    if n < 0 ∨ 0xFFFFFFFF < n then none
    else some (Int.pow m (if n < 128 then n else 128 + n % 2).toNat)
  arithmetic "**" raise v w

/-- A number with the other sign. -/
def negate (v : Value) : Except Fault Value :=
  match v with
  | .number n => if inInt128 (-n) then .ok (.number (-n)) else .error (.badOperand "-")
  | _ => .error (.badOperand "-")

/-- The fields of a map with a value for a key. A key that is there keeps its place. -/
def assignField (key : String) (v : Value) : List (String × Value) → List (String × Value)
  | [] => [(key, v)]
  | (other, w) :: fields =>
    if other = key then (key, v) :: fields else (other, w) :: assignField key v fields

/-- Whether a value occurs in another: as an element, a part of a text or a key. -/
def occursIn (v : Value) : Value → Except Fault Bool
  | .undefined _ => .ok false
  | .string s => .ok (Text.contains s v.display)
  | .list _ vs => .ok (vs.any fun w => same w v)
  | .map fields =>
    match v with
    | .string key => .ok (fields.any (·.1 = key))
    | _ => .ok false
  | .loop .. => .ok false
  | _ => .error (.badOperand "in")

end Value

end ScanQuery.Template
