import Mathlib.Data.List.Nodup
import ScanQuery.Collection

/-!
Keeping the first of each kind. A list reduced to the values whose key no earlier value has holds
every key of the list once, in the order in which the keys come up, each with the value that
brought it. Such a reduction can be done from the front or, value by value, at the end: a list of
plugins that grows by those it does not know yet is the reduction of everything that was offered.
-/

namespace ScanQuery

section FirstBy

variable {α κ : Type} [DecidableEq κ] (key : α → κ)

/-- The values of a list whose key no earlier value has. -/
def firstBy : List α → List α
  | [] => []
  | a :: rest => a :: (firstBy rest).filter fun b => key b ≠ key a

/-- No key is lost and none is made up. -/
theorem mem_map_firstBy {l : List α} {k : κ} : k ∈ (firstBy key l).map key ↔ k ∈ l.map key := by
  induction l with
  | nil => rfl
  | cons a rest ih =>
    have hrest : k ∈ ((firstBy key rest).filter fun b => key b ≠ key a).map key ↔
        k ≠ key a ∧ k ∈ rest.map key := by
      rw [← ih]
      simp only [List.mem_map, List.mem_filter, decide_eq_true_eq]
      constructor
      · rintro ⟨b, ⟨hb, hne⟩, rfl⟩
        exact ⟨hne, b, hb, rfl⟩
      · rintro ⟨hne, b, hb, rfl⟩
        exact ⟨b, ⟨hb, hne⟩, rfl⟩
    rw [firstBy, List.map_cons, List.map_cons, List.mem_cons, List.mem_cons, hrest]
    tauto

/-- No key comes up twice. -/
theorem nodup_map_firstBy (l : List α) : ((firstBy key l).map key).Nodup := by
  induction l with
  | nil => exact .nil
  | cons a rest ih =>
    rw [firstBy, List.map_cons, List.nodup_cons]
    constructor
    · intro hmem
      obtain ⟨b, hb, hkey⟩ := List.mem_map.1 hmem
      have hne : key b ≠ key a := by simpa using (List.mem_filter.1 hb).2
      exact hne hkey
    · exact ih.sublist (List.filter_sublist.map key)

/-- A value at the end is kept exactly when no value before it has its key. -/
theorem firstBy_concat (l : List α) (a : α) :
    firstBy key (l ++ [a]) =
      if key a ∈ l.map key then firstBy key l else firstBy key l ++ [a] := by
  induction l with
  | nil => rfl
  | cons b rest ih =>
    rw [List.cons_append, firstBy, ih, firstBy, List.map_cons]
    by_cases hrest : key a ∈ rest.map key
    · rw [if_pos hrest, if_pos (List.mem_cons_of_mem _ hrest)]
    · rw [if_neg hrest, List.filter_append]
      by_cases hab : key a = key b
      · simp [hab]
      · simp [hab, hrest]

/-- Of a second list those are kept whose key the first list does not have. -/
theorem firstBy_append (l l' : List α) :
    firstBy key (l ++ l') =
      firstBy key l ++ (firstBy key l').filter fun b => key b ∉ l.map key := by
  induction l with
  | nil => simp [firstBy]
  | cons a rest ih =>
    rw [List.cons_append, firstBy, ih, firstBy, List.filter_append, List.filter_filter,
      List.cons_append]
    refine congrArg (fun kept => a :: (_ ++ kept)) (List.filter_congr fun b _ => ?_)
    simp [not_or]

/-- A list without a repeated key is kept as it is. -/
theorem firstBy_of_nodup {l : List α} (h : (l.map key).Nodup) : firstBy key l = l := by
  induction l with
  | nil => rfl
  | cons a rest ih =>
    obtain ⟨hnew, hrest⟩ := List.nodup_cons.1 h
    rw [firstBy, ih hrest, List.filter_eq_self.2]
    intro b hb
    have hne : key b ≠ key a := fun heq => hnew (heq ▸ List.mem_map_of_mem hb)
    simpa using hne

/-- Reducing an image by a key is reducing by the key of the image. -/
theorem firstBy_map {β : Type} (f : β → α) (l : List β) :
    firstBy key (l.map f) = (firstBy (fun b => key (f b)) l).map f := by
  induction l with
  | nil => rfl
  | cons b rest ih => rw [List.map_cons, firstBy, ih, List.filter_map, firstBy, List.map_cons]; rfl

end FirstBy

/-! ### Lists of plugins -/

namespace Collection

/-- A plugin is registered exactly when its id is new. -/
theorem isNewPlugin_iff {c : Collection} {id : String} :
    c.isNewPlugin id ↔ id ∉ c.plugins.map (·.id) := by
  rw [isNewPlugin, plugin?, Option.isNone_iff_eq_none, List.find?_eq_none]
  simp

theorem plugins_registerPlugin (c : Collection) (id name rawSeverity : String) :
    (c.registerPlugin id name rawSeverity).plugins =
      if id ∈ c.plugins.map (·.id) then c.plugins
      else c.plugins ++ [⟨id, name, Severity.ofReport rawSeverity⟩] := by
  by_cases hid : id ∈ c.plugins.map (·.id)
  · rw [if_pos hid, registerPlugin, if_neg fun hnew => isNewPlugin_iff.1 hnew hid]
  · rw [if_neg hid, registerPlugin, if_pos (isNewPlugin_iff.2 hid)]

@[simp] theorem hosts_registerPlugin (c : Collection) (id name rawSeverity : String) :
    (c.registerPlugin id name rawSeverity).hosts = c.hosts := by
  unfold registerPlugin
  split <;> rfl

end Collection

end ScanQuery
