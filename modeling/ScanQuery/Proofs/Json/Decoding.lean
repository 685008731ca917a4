import ScanQuery.Json.Decode
import ScanQuery.Proofs.Json.Reading
import ScanQuery.Proofs.KeyMap

/-!
Decoders against encoders. A decoder undoes an encoder when it gives back every value from its JSON
form. If it does so for the members of a list or a map, it does so for the list or the map; and what
is undone on JSON values is undone on the texts of either layout.
-/

namespace ScanQuery.Json

variable {α : Type} {decode : Json → Option α} {encode : α → Json}

/-- Decoding gives back every value that is encoded. -/
def Undoes (decode : Json → Option α) (encode : α → Json) : Prop :=
  ∀ a, decode (encode a) = some a

/-! ### Plain values -/

@[simp] theorem text?_string (s : String) : text? (string s) = some s := rfl

@[simp] theorem truth?_bool (b : Bool) : truth? (bool b) = some b := rfl

@[simp] theorem natural?_number (n : Nat) : natural? (number n) = some n := rfl

/-! ### Lists and maps -/

/-- Members that are decoded one by one to what they were encoded from are decoded together. -/
theorem mapM_map_eq_some {β γ : Type} {f : γ → Option β} {g : β → γ} (h : ∀ b, f (g b) = some b)
    (bs : List β) : (bs.map g).mapM f = some bs := by
  have hcomp : f ∘ g = pure := funext h
  rw [List.mapM_map, hcomp]
  simpa using List.mapM_pure (m := Option) (l := bs) (f := id)

theorem Undoes.list (h : Undoes decode encode) :
    Undoes (list? decode) fun as => array (as.map encode) :=
  mapM_map_eq_some h

theorem texts_undoes : Undoes (list? text?) texts :=
  Undoes.list text?_string

theorem Undoes.map (h : Undoes decode encode) :
    Undoes (map? decode) fun m => object (m.entries.map fun (key, a) => (key, encode a)) := by
  intro m
  have hfield : ∀ e : String × α, decodeField? decode (e.1, encode e.2) = some e := by
    intro e
    rw [decodeField?, h, Option.map_some]
  rw [map?, mapM_map_eq_some hfield, Option.map_some, KeyMap.ofList_entries]

/-! ### Fields -/

section

variable {name key : String} {w : Json} {fields : List (String × Json)}

@[simp] theorem field?_cons_self : (object ((name, w) :: fields)).field? name = some w := by
  rw [field?, KeyMap.lookup_cons_eq, if_pos rfl]

@[simp] theorem field?_cons_of_ne (h : name ≠ key) :
    (object ((key, w) :: fields)).field? name = (object fields).field? name := by
  rw [field?, KeyMap.lookup_cons_eq, if_neg h, field?]

@[simp] theorem required?_cons_self :
    (object ((name, w) :: fields)).required? name decode = decode w := by
  rw [required?, field?_cons_self, Option.bind_some]

@[simp] theorem required?_cons_of_ne (h : name ≠ key) :
    (object ((key, w) :: fields)).required? name decode =
      (object fields).required? name decode := by
  rw [required?, field?_cons_of_ne h, required?]

@[simp] theorem field?_nil (name : String) : (object []).field? name = none := rfl

@[simp] theorem optional?_cons_of_ne (h : name ≠ key) :
    (object ((key, w) :: fields)).optional? name decode =
      (object fields).optional? name decode := by
  rw [optional?, field?_cons_of_ne h, optional?]

/-- An optional text is read back from a field that is left out when there is none. -/
theorem optional?_optionalField (name : String) (value : Option String)
    (h : (object fields).field? name = none) :
    (object (optionalField name value ++ fields)).optional? name text? = some value := by
  cases value with
  | none => rw [optionalField, List.nil_append, optional?, h]
  | some s =>
    rw [optionalField, List.singleton_append, optional?, field?_cons_self]
    rfl

/-- A field that may be left out does not stand in the way of another. -/
@[simp] theorem required?_optionalField_append (value : Option String) (h : name ≠ key) :
    (object (optionalField key value ++ fields)).required? name decode =
      (object fields).required? name decode := by
  cases value with
  | none => rfl
  | some s => exact required?_cons_of_ne h

end

/-! ### Texts -/

/-- What a decoder undoes is read back from the text of either layout. -/
theorem Undoes.bind_parse? (h : Undoes decode encode) (a : α) :
    (parse? (encode a).compact).bind decode = some a ∧
      (parse? (encode a).pretty).bind decode = some a := by
  rw [parse?_compact, parse?_pretty, Option.bind_some, h]
  exact ⟨rfl, rfl⟩

end ScanQuery.Json
