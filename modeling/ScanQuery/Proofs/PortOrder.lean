import ScanQuery.Proofs.Sorting
import ScanQuery.Proofs.Text.Numerals
import ScanQuery.Proofs.Text.Split

/-!
The order of port-keys. What a key leads with is the number of at most 32 bits that is written,
up to white space, before its first slash; a key that leads with none counts as zero. Keys compare
by these numbers and, where they are the same, as texts. That is a total order, so sorting gives
one list for all lists of the same keys.
-/

namespace ScanQuery.Port

/-- What stands before the first slash of a key: all of it when there is no slash. -/
def Front (key front : String) : Prop :=
  '/' ∉ front.toList ∧ (key = front ∨ ∃ rest, key = front ++ "/" ++ rest)

/-- The front of the key is a numeral of 32 bits, up to white space. -/
def Leads (key : String) (n : Nat) : Prop :=
  ∃ front, Front key front ∧ Text.Counts (Text.trim front).toList n ∧ n < 2 ^ 32

/-- The number that the key leads with, and zero when it leads with none. -/
def CountsAs (key : String) (n : Nat) : Prop :=
  Leads key n ∨ (∀ m, ¬ Leads key m) ∧ n = 0

/-! ### The number of a key -/

theorem slash_ne_nil : "/".toList ≠ [] := List.cons_ne_nil '/' []

theorem front_segment (key : String) : Front key (segment key) := by
  unfold segment
  split
  · next port rest hcut =>
    obtain ⟨⟨before, after⟩, hchars, hpair⟩ := Option.map_eq_some_iff.1 hcut
    obtain ⟨rfl, rfl⟩ := by simpa using hpair
    have hno := Text.no_match_of_cutAt? slash_ne_nil hchars
    refine ⟨?_, .inr ⟨String.ofList after, ?_⟩⟩
    · rw [String.toList_ofList, ← List.singleton_infix_iff]
      exact hno
    · exact (Text.splitOnce?_eq_some_iff slash_ne_nil).1 hcut |>.1
  · next hcut =>
    have hno := (Text.cutAt?_eq_none_iff slash_ne_nil).1 (Option.map_eq_none_iff.1 hcut)
    exact ⟨(List.singleton_infix_iff _ _).not.1 hno, .inl rfl⟩

/-- A key has one front. -/
theorem Front.segment_eq {key front : String} (h : Front key front) : segment key = front := by
  obtain ⟨hno, rfl | ⟨rest, rfl⟩⟩ := h
  · have hcut := (Text.cutAt?_eq_none_iff slash_ne_nil).2
      (Text.not_infix_of_not_mem List.mem_cons_self hno)
    rw [segment, Text.splitOnce?, hcut]
    rfl
  · have hcut := Text.cutAt?_of_clear slash_ne_nil (Text.clear_of_not_mem hno) rest.toList
    rw [segment, Text.splitOnce?, String.toList_append, String.toList_append, List.append_assoc,
      hcut, Option.map_some]
    exact String.ofList_toList

theorem leads_iff {key : String} {n : Nat} :
    Leads key n ↔ Text.nat32? (Text.trim (segment key)) = some n := by
  rw [Text.nat32?_eq_some_iff]
  constructor
  · rintro ⟨front, hfront, hread⟩
    rwa [hfront.segment_eq]
  · intro hread
    exact ⟨_, front_segment key, hread⟩

theorem countsAs_iff {key : String} {n : Nat} : CountsAs key n ↔ number key = n := by
  simp only [CountsAs, leads_iff, number]
  cases Text.nat32? (Text.trim (segment key)) with
  | none => simp [eq_comm]
  | some m => simp

/-! ### The order -/

theorem compareKeys_of_ne {a b : String} {m n : Nat} (ha : CountsAs a m) (hb : CountsAs b n)
    (hne : m ≠ n) : compareKeys a b = compare m n := by
  rw [compareKeys, countsAs_iff.1 ha, countsAs_iff.1 hb]
  cases hmn : compare m n with
  | eq => exact absurd (Nat.compare_eq_eq.1 hmn) hne
  | _ => rfl

theorem compareKeys_of_same {a b : String} {n : Nat} (ha : CountsAs a n) (hb : CountsAs b n) :
    compareKeys a b = compare a b := by
  rw [compareKeys, countsAs_iff.1 ha, countsAs_iff.1 hb, Nat.compare_eq_eq.2 rfl]
  rfl

/-- Keys are totally ordered by the numbers they count as and then as texts, and sorting by that
order is ascending and the same for two lists exactly when they hold the same keys. -/
theorem compareKeys_orders :
    TotalOrder compareKeys ∧
    (∀ key, ∃! n, CountsAs key n) ∧
    (∀ a b m n, CountsAs a m → CountsAs b n →
      (m ≠ n → compareKeys a b = compare m n) ∧ (m = n → compareKeys a b = compare a b)) ∧
    (∀ keys keys' : List String, sortKeys keys = sortKeys keys' ↔ keys.Perm keys') ∧
    ∀ keys : List String, (sortKeys keys).Perm keys ∧
      ((sortKeys keys).Pairwise fun a b => (compareKeys a b).isLE) ∧
      (keys.Nodup → (sortKeys keys).Pairwise fun a b => compareKeys a b = .lt) := by
  refine ⟨totalOrder compareKeys, fun key => ?_, fun a b m n ha hb => ⟨?_, ?_⟩,
    fun _ _ => sortKeys_eq_iff_perm, fun keys => ⟨sortKeys_perm keys, ?_, pairwise_lt_sortKeys⟩⟩
  · exact ⟨number key, countsAs_iff.2 rfl, fun n hn => (countsAs_iff.1 hn).symm⟩
  · exact compareKeys_of_ne ha hb
  · rintro rfl
    exact compareKeys_of_same ha hb
  · exact pairwise_isLE_mergeSort compareKeys keys

/-- A number with white space and zeros around it, one with a sign, one of too many bits and a
word: the first two compare by value, the others count as zero. -/
theorem compareKeys_orders_mixed :
    compareKeys " 0443\t/tcp" "+8443" = .lt ∧
      compareKeys "4294967296/tcp" "general/tcp" = compare "4294967296/tcp" "general/tcp" ∧
      compareKeys "general/tcp" "80/tcp" = .lt ∧
      (sortKeys ["+8443", "80/udp", " 0443\t/tcp"]).Pairwise fun a b => compareKeys a b = .lt := by
  obtain ⟨-, -, hcompare, -, hsort⟩ := compareKeys_orders
  have h443 : CountsAs " 0443\t/tcp" 443 := countsAs_iff.2 (by decide +kernel)
  have h8443 : CountsAs "+8443" 8443 := countsAs_iff.2 (by decide +kernel)
  have hlarge : CountsAs "4294967296/tcp" 0 := countsAs_iff.2 (by decide +kernel)
  have hword : CountsAs "general/tcp" 0 := countsAs_iff.2 (by decide +kernel)
  have h80 : CountsAs "80/tcp" 80 := countsAs_iff.2 (by decide +kernel)
  exact ⟨(hcompare _ _ _ _ h443 h8443).1 (by decide), (hcompare _ _ _ _ hlarge hword).2 rfl,
    (hcompare _ _ _ _ hword h80).1 (by decide), (hsort _).2.2 (by decide)⟩

end ScanQuery.Port
