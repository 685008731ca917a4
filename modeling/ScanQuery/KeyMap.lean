/-!
Finite maps from texts to values. The entries stand in strictly ascending order of their keys,
by code points, so a map is determined by what it holds: two maps with the same value under
every key are equal, whatever order they were filled in.

Changing a map goes through one operation, `alter`, whose law `get?_alter` says what it does to
the view `get?`.
-/

namespace ScanQuery

/-- A finite map from texts to values, kept in ascending order of the keys. -/
structure KeyMap (α : Type) where
  entries : List (String × α)
  ascending : entries.Pairwise fun a b => a.1 < b.1

namespace KeyMap

variable {α β : Type}

/-- The map that holds nothing. -/
def empty : KeyMap α := ⟨[], .nil⟩

instance : EmptyCollection (KeyMap α) := ⟨empty⟩

instance : Inhabited (KeyMap α) := ⟨empty⟩

instance [DecidableEq α] : DecidableEq (KeyMap α) := fun m n =>
  decidable_of_iff (m.entries = n.entries)
    ⟨fun h => by cases m; cases n; simp_all, fun h => h ▸ rfl⟩

/-- The value under a key. -/
def get? (m : KeyMap α) (key : String) : Option α :=
  m.entries.lookup key

/-- The keys in ascending order. -/
def keys (m : KeyMap α) : List String :=
  m.entries.map (·.1)

/-- The values in the order of their keys. -/
def values (m : KeyMap α) : List α :=
  m.entries.map (·.2)

/-- The number of keys. -/
def size (m : KeyMap α) : Nat :=
  m.entries.length

/-- Whether there is no key. -/
def isEmpty (m : KeyMap α) : Bool :=
  m.entries.isEmpty

/-- The sum of a measure over all values. -/
def total (m : KeyMap α) (measure : α → Nat) : Nat :=
  m.values.foldr (fun value rest => measure value + rest) 0

/-- Puts `change` of the present value, if there is one, under `key` into an ascending list. -/
def alterEntries (key : String) (change : Option α → α) :
    List (String × α) → List (String × α)
  | [] => [(key, change none)]
  | (k, v) :: rest =>
    if key < k then (key, change none) :: (k, v) :: rest
    else if k < key then (k, v) :: alterEntries key change rest
    else (k, change (some v)) :: rest

theorem fst_mem_alterEntries {key : String} {change : Option α → α} {entries : List (String × α)}
    {e : String × α} (h : e ∈ alterEntries key change entries) :
    e.1 = key ∨ ∃ e' ∈ entries, e'.1 = e.1 := by
  induction entries with
  | nil => simp_all [alterEntries]
  | cons p rest ih =>
    simp only [alterEntries] at h
    split at h
    · rcases List.mem_cons.1 h with rfl | h
      · exact .inl rfl
      · exact .inr ⟨e, h, rfl⟩
    · split at h
      · rcases List.mem_cons.1 h with rfl | h
        · exact .inr ⟨_, List.mem_cons_self, rfl⟩
        · rcases ih h with hk | ⟨e', he', heq⟩
          · exact .inl hk
          · exact .inr ⟨e', List.mem_cons_of_mem _ he', heq⟩
      · rcases List.mem_cons.1 h with rfl | h
        · exact .inr ⟨_, List.mem_cons_self, rfl⟩
        · exact .inr ⟨e, List.mem_cons_of_mem _ h, rfl⟩

theorem ascending_alterEntries {key : String} {change : Option α → α}
    {entries : List (String × α)} (h : entries.Pairwise fun a b => a.1 < b.1) :
    (alterEntries key change entries).Pairwise fun a b => a.1 < b.1 := by
  induction entries with
  | nil => simp [alterEntries]
  | cons p rest ih =>
    obtain ⟨hp, hrest⟩ := List.pairwise_cons.1 h
    simp only [alterEntries]
    split
    · next hlt =>
      refine List.pairwise_cons.2 ⟨fun e he => ?_, h⟩
      rcases List.mem_cons.1 he with rfl | he
      · exact hlt
      · exact String.lt_trans hlt (hp e he)
    · split
      · next hlt =>
        refine List.pairwise_cons.2 ⟨fun e he => ?_, ih hrest⟩
        rcases fst_mem_alterEntries he with hk | ⟨e', he', heq⟩
        · exact hk ▸ hlt
        · exact heq ▸ hp e' he'
      · exact List.pairwise_cons.2 ⟨fun e he => hp e he, hrest⟩

/-- The map with `change` of the value that `key` has, or of none, under `key`. -/
def alter (m : KeyMap α) (key : String) (change : Option α → α) : KeyMap α :=
  ⟨alterEntries key change m.entries, ascending_alterEntries m.ascending⟩

/-- The map with `value` under `key`. -/
def insert (m : KeyMap α) (key : String) (value : α) : KeyMap α :=
  m.alter key fun _ => value

/-- The map of a list of entries, in which a later entry replaces an earlier one. -/
def ofList (entries : List (String × α)) : KeyMap α :=
  entries.foldl (fun m (key, value) => m.insert key value) empty

/-! ### The view `get?` -/

@[simp] theorem get?_empty (key : String) : (empty : KeyMap α).get? key = none := rfl

theorem lookup_cons_eq (key k : String) (v : α) (rest : List (String × α)) :
    ((k, v) :: rest).lookup key = if key = k then some v else rest.lookup key := by
  by_cases h : key = k
  · simp [h]
  · simp [List.lookup_cons, beq_false_of_ne h, h]

theorem lookup_eq_none_of_lt {entries : List (String × α)} {key : String}
    (h : ∀ e ∈ entries, key < e.1) : entries.lookup key = none := by
  refine List.lookup_eq_none_iff.2 fun e he => ?_
  simpa using fun heq : key = e.1 => String.lt_irrefl _ (heq ▸ h e he)

/-- Altering one key changes the value there and no other. -/
theorem get?_alter (m : KeyMap α) (key key' : String) (change : Option α → α) :
    (m.alter key change).get? key' =
      if key' = key then some (change (m.get? key)) else m.get? key' := by
  obtain ⟨entries, hasc⟩ := m
  simp only [get?, alter]
  induction entries with
  | nil =>
    by_cases h : key' = key <;> simp [alterEntries, lookup_cons_eq, h]
  | cons p rest ih =>
    obtain ⟨k, v⟩ := p
    obtain ⟨hp, hrest⟩ := List.pairwise_cons.1 hasc
    simp only [alterEntries]
    split
    · next hlt =>
      have hnone : ((k, v) :: rest).lookup key = none := by
        refine lookup_eq_none_of_lt fun e he => ?_
        rcases List.mem_cons.1 he with rfl | he
        · exact hlt
        · exact String.lt_trans hlt (hp e he)
      rw [hnone, lookup_cons_eq]
    · split
      · next hlt =>
        have hne : key ≠ k := fun h => String.lt_irrefl _ (h ▸ hlt)
        simp only [lookup_cons_eq, ih hrest]
        by_cases h : key' = k
        · subst h
          simp [Ne.symm hne]
        · simp [h, hne]
      · next hlt hlt' =>
        have heq : key = k := String.le_antisymm hlt' hlt
        subst heq
        simp only [lookup_cons_eq]
        by_cases h : key' = key <;> simp [h]

theorem get?_insert (m : KeyMap α) (key key' : String) (value : α) :
    (m.insert key value).get? key' = if key' = key then some value else m.get? key' := by
  simp [insert, get?_alter]

end KeyMap

end ScanQuery
