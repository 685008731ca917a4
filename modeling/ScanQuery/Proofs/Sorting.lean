import Mathlib.Data.List.Nodup
import ScanQuery.Address
import ScanQuery.Port

/-!
Sorting by a comparison. Where a comparison is transitive and tells any two values apart, a sorted
list depends only on what is in it: sorting decides whether two lists are permutations of each
other, and a list without repetition comes out strictly ascending. The orders of ports and of
addresses both compare a number first and the text where the numbers agree, so they are such
comparisons.
-/

namespace ScanQuery

section Sorting

variable {α : Type} (cmp : α → α → Ordering)

/-- Any two values compare, and equally only if they are the same. -/
structure TotalOrder : Prop where
  total (a b : α) : (cmp a b).isLE ∨ (cmp b a).isLE
  antisymm (a b : α) : (cmp a b).isLE → (cmp b a).isLE → a = b
  trans (a b c : α) : (cmp a b).isLE → (cmp b c).isLE → (cmp a c).isLE
  swap (a b : α) : cmp b a = (cmp a b).swap
  eq_iff (a b : α) : cmp a b = .eq ↔ a = b

theorem isLE_total [Std.TransCmp cmp] (a b : α) : ((cmp a b).isLE || (cmp b a).isLE) = true := by
  have hswap : cmp b a = (cmp a b).swap := Std.OrientedCmp.eq_swap
  rw [hswap]
  cases cmp a b <;> rfl

theorem isLE_trans [Std.TransCmp cmp] (a b c : α) (hab : (cmp a b).isLE) (hbc : (cmp b c).isLE) :
    (cmp a c).isLE :=
  Std.TransCmp.isLE_trans hab hbc

theorem pairwise_isLE_mergeSort [Std.TransCmp cmp] (l : List α) :
    (l.mergeSort fun a b => (cmp a b).isLE).Pairwise fun a b => (cmp a b).isLE :=
  List.pairwise_mergeSort (isLE_trans cmp) (isLE_total cmp) l

theorem eq_lt_of_isLE_of_ne [Std.LawfulEqCmp cmp] {a b : α} (hle : (cmp a b).isLE) (hne : a ≠ b) :
    cmp a b = .lt := by
  cases hab : cmp a b with
  | lt => rfl
  | eq => exact absurd (Std.LawfulEqCmp.eq_of_compare hab) hne
  | gt => rw [hab] at hle; exact nomatch hle

variable [Std.TransCmp cmp] [Std.LawfulEqCmp cmp]

theorem totalOrder : TotalOrder cmp where
  total a b := Bool.or_eq_true_iff.1 (isLE_total cmp a b)
  antisymm _ _ hab hba := Std.LawfulEqCmp.eq_of_compare (Std.OrientedCmp.isLE_antisymm hab hba)
  trans := isLE_trans cmp
  swap _ _ := Std.OrientedCmp.eq_swap
  eq_iff _ _ := Std.LawfulEqCmp.compare_eq_iff_eq

/-- Sorting a list without repetition makes it strictly ascending. -/
theorem pairwise_lt_mergeSort {l : List α} (hl : l.Nodup) :
    (l.mergeSort fun a b => (cmp a b).isLE).Pairwise fun a b => cmp a b = .lt := by
  have hnodup : (l.mergeSort fun a b => (cmp a b).isLE).Nodup :=
    (List.mergeSort_perm l _).nodup_iff.2 hl
  exact (pairwise_isLE_mergeSort cmp l).imp₂ (fun _ _ hle hne => eq_lt_of_isLE_of_ne cmp hle hne)
    hnodup

/-- Two lists are sorted to the same list exactly when one is a permutation of the other. -/
theorem mergeSort_eq_mergeSort_iff_perm {l l' : List α} :
    (l.mergeSort fun a b => (cmp a b).isLE) = (l'.mergeSort fun a b => (cmp a b).isLE) ↔
      l.Perm l' := by
  have hperm := List.mergeSort_perm l fun a b => (cmp a b).isLE
  have hperm' := List.mergeSort_perm l' fun a b => (cmp a b).isLE
  constructor
  · intro heq
    exact hperm.symm.trans (heq ▸ hperm')
  · intro h
    refine List.Perm.eq_of_pairwise (fun a b _ _ hab hba => ?_) (pairwise_isLE_mergeSort cmp l)
      (pairwise_isLE_mergeSort cmp l') (hperm.trans (h.trans hperm'.symm))
    exact Std.LawfulEqCmp.eq_of_compare (Std.OrientedCmp.isLE_antisymm hab hba)

/-- A strictly ascending list is what sorting makes of its values, in whatever order they come. -/
theorem eq_mergeSort_of_pairwise_lt {l l' : List α} (hperm : l'.Perm l)
    (hasc : l'.Pairwise fun a b => cmp a b = .lt) : l' = l.mergeSort fun a b => (cmp a b).isLE := by
  have hsorted : l'.Pairwise fun a b => (cmp a b).isLE :=
    hasc.imp fun hlt => by rw [hlt]; rfl
  rw [← List.mergeSort_of_pairwise hsorted]
  exact (mergeSort_eq_mergeSort_iff_perm cmp).2 hperm

end Sorting

/-! ### Ports -/

namespace Port

instance : Std.TransCmp compareKeys :=
  inferInstanceAs (Std.TransCmp (compareLex (compareOn number) compare))

instance : Std.LawfulEqCmp compareKeys where
  eq_of_compare h := Std.LawfulEqCmp.eq_of_compare (Ordering.then_eq_eq.1 h).2

theorem sortKeys_perm (keys : List String) : (sortKeys keys).Perm keys :=
  List.mergeSort_perm ..

theorem pairwise_lt_sortKeys {keys : List String} (h : keys.Nodup) :
    (sortKeys keys).Pairwise fun a b => compareKeys a b = .lt :=
  pairwise_lt_mergeSort compareKeys h

theorem sortKeys_eq_iff_perm {keys keys' : List String} :
    sortKeys keys = sortKeys keys' ↔ keys.Perm keys' :=
  mergeSort_eq_mergeSort_iff_perm compareKeys

end Port

/-! ### Addresses -/

namespace Address

instance : Std.TransCmp compareTexts :=
  inferInstanceAs (Std.TransCmp (compareLex (compareOn rank) compare))

instance : Std.LawfulEqCmp compareTexts where
  eq_of_compare h := Std.LawfulEqCmp.eq_of_compare (Ordering.then_eq_eq.1 h).2

theorem sort_perm (texts : List String) : (sort texts).Perm texts :=
  List.mergeSort_perm ..

theorem pairwise_lt_sort {texts : List String} (h : texts.Nodup) :
    (sort texts).Pairwise fun a b => compareTexts a b = .lt :=
  pairwise_lt_mergeSort compareTexts h

end Address

end ScanQuery
