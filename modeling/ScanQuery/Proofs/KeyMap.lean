import Mathlib
import ScanQuery.KeyMap

/-!
Maps seen through their entries. A key occurs at most once, so looking it up and filtering the
entries by it are the same thing. Every measure summed over a map, its size among them, changes
under `alter` only by what the altered value contributes. A map is made again from its entries.
-/

namespace ScanQuery.KeyMap

variable {α : Type}

/-! ### Keys and entries -/

theorem keys_ascending (m : KeyMap α) : m.keys.Pairwise (· < ·) :=
  List.pairwise_map.2 m.ascending

theorem keys_nodup (m : KeyMap α) : m.keys.Nodup :=
  m.keys_ascending.imp fun {a b} (hlt : a < b) (heq : a = b) => String.lt_irrefl b (heq ▸ hlt)

/-- No entry of an ascending list but the first has the key of the first. -/
theorem fst_ne_of_ascending {k : String} {v : α} {rest : List (String × α)}
    (h : ((k, v) :: rest).Pairwise fun a b => a.1 < b.1) : ∀ e ∈ rest, e.1 ≠ k := by
  intro e he heq
  have hlt : k < e.1 := (List.pairwise_cons.1 h).1 e he
  exact String.lt_irrefl _ (heq ▸ hlt)

/-- The entries with one key are the value under it, if there is one. -/
theorem filter_entries (m : KeyMap α) (key : String) :
    m.entries.filter (·.1 = key) = ((m.get? key).map fun v => (key, v)).toList := by
  obtain ⟨entries, hasc⟩ := m
  simp only [get?]
  induction entries with
  | nil => rfl
  | cons e rest ih =>
    obtain ⟨k, v⟩ := e
    by_cases hk : k = key
    · subst hk
      have hnone : rest.filter (·.1 = k) = [] :=
        List.filter_eq_nil_iff.2 fun e he => by simpa using fst_ne_of_ascending hasc e he
      simp [hnone]
    · rw [List.filter_cons_of_neg (by simpa using hk), lookup_cons_eq, if_neg (Ne.symm hk)]
      exact ih (List.pairwise_cons.1 hasc).2

theorem mem_entries_iff {m : KeyMap α} {key : String} {v : α} :
    (key, v) ∈ m.entries ↔ m.get? key = some v := by
  have h : (key, v) ∈ m.entries ↔ (key, v) ∈ m.entries.filter (·.1 = key) := by
    simp [List.mem_filter]
  rw [h, filter_entries]
  cases m.get? key <;> simp [eq_comm]

theorem mem_keys_iff {m : KeyMap α} {key : String} : key ∈ m.keys ↔ (m.get? key).isSome := by
  simp only [keys, List.mem_map, Prod.exists, exists_and_right, exists_eq_right, mem_entries_iff,
    Option.isSome_iff_exists]

theorem mem_values_iff {m : KeyMap α} {v : α} : v ∈ m.values ↔ ∃ key, m.get? key = some v := by
  simp only [values, List.mem_map, Prod.exists, exists_eq_right, mem_entries_iff]

theorem values_eq_nil_iff {m : KeyMap α} : m.values = [] ↔ m.keys = [] := by
  simp only [values, keys, List.map_eq_nil_iff]

theorem entries_nodup (m : KeyMap α) : m.entries.Nodup :=
  m.keys_nodup.of_map _

theorem ext_entries {m n : KeyMap α} (h : m.entries = n.entries) : m = n := by
  cases m
  cases n
  cases h
  rfl

/-- Maps with the same value under every key are equal. -/
theorem ext_get? {m n : KeyMap α} (h : ∀ key, m.get? key = n.get? key) : m = n := by
  have hperm : m.entries.Perm n.entries := by
    refine (List.perm_ext_iff_of_nodup m.entries_nodup n.entries_nodup).2 fun e => ?_
    rw [mem_entries_iff, mem_entries_iff, h]
  have hentries : m.entries = n.entries := by
    refine hperm.eq_of_pairwise (fun a b _ _ hab hba => ?_) m.ascending n.ascending
    exact absurd (String.lt_trans hab hba) (String.lt_irrefl a.1)
  exact ext_entries hentries

/-! ### Sums over a map -/

theorem total_eq_sum (m : KeyMap α) (measure : α → Nat) :
    m.total measure = (m.entries.map fun e => measure e.2).sum := by
  simp only [total, values]
  induction m.entries with
  | nil => rfl
  | cons e rest ih => simp only [List.map_cons, List.foldr_cons, List.sum_cons, ih]

theorem size_eq_total (m : KeyMap α) : m.size = m.total fun _ => 1 := by
  simp [total_eq_sum, size]

/-- What altering a key does to a sum over an ascending list. -/
theorem sum_alterEntries (key : String) (change : Option α → α) (measure : α → Nat) :
    ∀ {entries : List (String × α)}, entries.Pairwise (fun a b => a.1 < b.1) →
    ((alterEntries key change entries).map fun e => measure e.2).sum +
        ((entries.lookup key).map measure).getD 0 =
      (entries.map fun e => measure e.2).sum + measure (change (entries.lookup key))
  | [], _ => by simp [alterEntries]
  | (k, v) :: rest, hasc => by
    obtain ⟨hk, hrest⟩ := List.pairwise_cons.1 hasc
    simp only [alterEntries]
    split
    · next hlt =>
      -- the key comes before every entry, so none has it
      have hnone : ((k, v) :: rest).lookup key = none := by
        refine lookup_eq_none_of_lt fun e he => ?_
        rcases List.mem_cons.1 he with rfl | he
        · exact hlt
        · exact String.lt_trans hlt (hk e he)
      simp only [hnone, List.map_cons, List.sum_cons, Option.map_none, Option.getD_none]
      omega
    · split
      · next hlt =>
        have hne : key ≠ k := fun heq => String.lt_irrefl _ (heq ▸ hlt)
        have ih := sum_alterEntries key change measure hrest
        rw [lookup_cons_eq, if_neg hne]
        simp only [List.map_cons, List.sum_cons]
        omega
      · next hlt hlt' =>
        have heq : key = k := String.le_antisymm hlt' hlt
        rw [lookup_cons_eq, if_pos heq]
        simp only [List.map_cons, List.sum_cons, Option.map_some, Option.getD_some]
        omega

/-- Altering a key exchanges what its value contributes to a sum. -/
theorem total_alter (m : KeyMap α) (key : String) (change : Option α → α) (measure : α → Nat) :
    (m.alter key change).total measure + ((m.get? key).map measure).getD 0 =
      m.total measure + measure (change (m.get? key)) := by
  rw [total_eq_sum, total_eq_sum]
  exact sum_alterEntries key change measure m.ascending

theorem size_alter (m : KeyMap α) (key : String) (change : Option α → α) :
    (m.alter key change).size = m.size + if (m.get? key).isSome then 0 else 1 := by
  have h := m.total_alter key change fun _ => 1
  rw [← size_eq_total, ← size_eq_total] at h
  cases hk : m.get? key <;> simp [hk] at h ⊢ <;> omega

/-! ### Lists of entries -/

/-- A key behind all others is put at the end. -/
theorem alterEntries_of_lt (key : String) (change : Option α → α) :
    ∀ {entries : List (String × α)}, (∀ e ∈ entries, e.1 < key) →
      alterEntries key change entries = entries ++ [(key, change none)]
  | [], _ => rfl
  | (k, v) :: rest, h => by
    have hlt : k < key := h (k, v) List.mem_cons_self
    rw [alterEntries, if_neg fun hgt => String.lt_irrefl _ (String.lt_trans hlt hgt), if_pos hlt,
      alterEntries_of_lt key change fun e he => h e (List.mem_cons_of_mem _ he), List.cons_append]

/-- Entries that are in order already stay as they are. -/
theorem entries_ofList {entries : List (String × α)}
    (h : entries.Pairwise fun a b => a.1 < b.1) : (ofList entries).entries = entries := by
  induction entries using List.reverseRecOn with
  | nil => rfl
  | append_singleton entries e ih =>
    obtain ⟨hentries, -, hlt⟩ := List.pairwise_append.1 h
    have hofList : ofList (entries ++ [e]) = (ofList entries).insert e.1 e.2 := by
      rw [ofList, ofList, List.foldl_append]
      rfl
    rw [hofList, insert, alter]
    dsimp only
    rw [ih hentries, alterEntries_of_lt]
    intro e' he'
    exact hlt e' he' e List.mem_cons_self

/-- A map is made again from its entries. -/
theorem ofList_entries (m : KeyMap α) : ofList m.entries = m :=
  ext_entries (entries_ofList m.ascending)

end ScanQuery.KeyMap
