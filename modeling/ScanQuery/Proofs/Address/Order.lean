import ScanQuery.Matches
import ScanQuery.Proofs.Address.Reading
import ScanQuery.Proofs.KeyMap
import ScanQuery.Proofs.Sorting
import ScanQuery.Proofs.Text.Trim

/-!
The order of addresses. Texts are ordered by kind, every text that is no address before every
address; addresses by value, so that those of version 4 stand in the order of their 32 bits; and
what is the same so far as texts. The order is total, so the host keys of a result have one
strictly ascending arrangement, which is the one that sorting gives.
-/

namespace ScanQuery.Address

/-- The text is an address with the value, up to white space around it. -/
def Names (text : String) (n : Nat) : Prop :=
  Denotes (Text.trimChars text.toList) n

/-! ### The place of a text -/

theorem rank_of_names {text : String} {n : Nat} (h : Names text n) : rank text = n + 1 := by
  rw [rank, value?_eq_some_iff.2 h]

theorem not_names_of_value? {text : String} (h : value? text = none) : ∀ n, ¬ Names text n :=
  fun _ hnames => nomatch h.symm.trans (value?_eq_some_iff.2 hnames)

theorem rank_of_not_names {text : String} (h : ∀ n, ¬ Names text n) : rank text = 0 := by
  cases hvalue : value? text with
  | none => rw [rank, hvalue]
  | some n => exact absurd (value?_eq_some_iff.1 hvalue) (h n)

theorem compareTexts_of_lt {a b : String} (h : rank a < rank b) : compareTexts a b = .lt := by
  rw [compareTexts, Nat.compare_eq_lt.2 h]
  rfl

theorem compareTexts_of_eq {a b : String} (h : rank a = rank b) :
    compareTexts a b = compare a b := by
  rw [compareTexts, Nat.compare_eq_eq.2 h]
  rfl

theorem compareTexts_of_names {a b : String} {m n : Nat} (ha : Names a m) (hb : Names b n) :
    compareTexts a b = (compare m n).then (compare a b) := by
  have hcompare : compare (m + 1) (n + 1) = compare m n := by
    simpa only [cmp_eq_compare] using cmp_add_right m n 1
  rw [compareTexts, rank_of_names ha, rank_of_names hb, hcompare]

/-! ### Dotted decimal -/

theorem names_dotted (a b c d : Fin 256) :
    Names (dotted a b c d) (0xFFFF * 2 ^ 32 + number a b c d) := by
  have hshown : ∀ e ∈ (dotted a b c d).toList, Text.isBlank e = false := by
    have hdigit : ∀ (o : Fin 256), ∀ e ∈ Nat.toDigits 10 o, Text.isBlank e = false :=
      fun o e he => Text.isBlank_of_isDigit ((Text.digits_toDigits o).2 e he)
    simp only [toList_dotted, List.mem_append, List.mem_cons]
    rintro e (he | rfl | he | rfl | he | rfl | he)
    any_goals exact hdigit _ e he
    all_goals decide
  rw [Names, Text.trimChars_of_trimmed (Text.trimmed_of_forall hshown)]
  exact .octets a b c d

theorem number_inj {a b c d e f g h : Fin 256} (heq : number a b c d = number e f g h) :
    a = e ∧ b = f ∧ c = g ∧ d = h := by
  simp only [number] at heq
  simp only [Fin.ext_iff]
  omega

/-- Texts in dotted decimal compare as the numbers of 32 bits that they denote. -/
theorem compareTexts_dotted (a b c d e f g h : Fin 256) :
    compareTexts (dotted a b c d) (dotted e f g h) =
      compare (number a b c d) (number e f g h) := by
  have hplace : ∀ m n : Nat, compare (0xFFFF * 2 ^ 32 + m) (0xFFFF * 2 ^ 32 + n) = compare m n := by
    intro m n
    simpa only [cmp_eq_compare] using cmp_add_left (0xFFFF * 2 ^ 32) m n
  rw [compareTexts_of_names (names_dotted a b c d) (names_dotted e f g h), hplace]
  cases hnumbers : compare (number a b c d) (number e f g h) with
  | eq =>
    obtain ⟨rfl, rfl, rfl, rfl⟩ := number_inj (Nat.compare_eq_eq.1 hnumbers)
    exact Std.ReflOrd.compare_self
  | lt => rfl
  | gt => rfl

/-! ### Host keys -/

/-- The sorted keys of a result are the one strictly ascending arrangement of its host keys. -/
theorem sortHosts_arranges (m : Matches) :
    m.sortHosts.sortedKeys.Perm m.collection.hosts.keys ∧
      (m.sortHosts.sortedKeys.Pairwise fun a b => compareTexts a b = .lt) ∧
      ∀ keys : List String, keys.Perm m.collection.hosts.keys →
        (keys.Pairwise fun a b => compareTexts a b = .lt) → keys = m.sortHosts.sortedKeys :=
  ⟨sort_perm _, pairwise_lt_sort m.collection.hosts.keys_nodup,
    fun _ hperm hasc => eq_mergeSort_of_pairwise_lt compareTexts hperm hasc⟩

/-- Texts are totally ordered, those that are no addresses first and as texts, addresses by their
values and then as texts, and texts in dotted decimal by their numbers alone; by that order the
host keys of a result are sorted, in the only way there is. -/
theorem compareTexts_orders :
    TotalOrder compareTexts ∧
    (∀ a b n, (∀ m, ¬ Names a m) → Names b n → compareTexts a b = .lt) ∧
    (∀ a b, (∀ m, ¬ Names a m) → (∀ n, ¬ Names b n) → compareTexts a b = compare a b) ∧
    (∀ a b m n, Names a m → Names b n → compareTexts a b = (compare m n).then (compare a b)) ∧
    (∀ a b c d e f g h : Fin 256,
      compareTexts (dotted a b c d) (dotted e f g h) = compare (number a b c d) (number e f g h)) ∧
    ∀ m : Matches, m.sortHosts.sortedKeys.Perm m.collection.hosts.keys ∧
      (m.sortHosts.sortedKeys.Pairwise fun a b => compareTexts a b = .lt) ∧
      ∀ keys : List String, keys.Perm m.collection.hosts.keys →
        (keys.Pairwise fun a b => compareTexts a b = .lt) → keys = m.sortHosts.sortedKeys := by
  refine ⟨totalOrder compareTexts, fun a b n ha hb => compareTexts_of_lt ?_,
    fun a b ha hb => compareTexts_of_eq ?_, fun _ _ _ _ => compareTexts_of_names,
    compareTexts_dotted, sortHosts_arranges⟩
  · rw [rank_of_not_names ha, rank_of_names hb]
    exact Nat.succ_pos n
  · rw [rank_of_not_names ha, rank_of_not_names hb]

/-- A result with two hosts, whose keys are in the order of texts. -/
def neighbours : Matches :=
  ((Matches.new "" "sev>=med").addFinding "10.0.0.10" none "80/tcp" ⟨"1", "a", "2", "", none⟩)
    |>.addFinding "10.0.0.9" none "80/tcp" ⟨"1", "a", "2", "", none⟩

/-- A name, a number with a zero too many, addresses of both versions and two neighbours. -/
theorem compareTexts_orders_neighbours :
    compareTexts "scanner-host" " 10.0.0.1" = .lt ∧
      compareTexts "scanner-host" "010.0.0.1" = .gt ∧
      compareTexts " 10.0.0.1" "fe80::1" = .lt ∧
      compareTexts "192.168.1.1" "10.0.0.1" = .gt ∧
      ["10.0.0.9", "10.0.0.10"] = neighbours.sortHosts.sortedKeys := by
  obtain ⟨-, hkind, htext, hvalue, hdotted, hkeys⟩ := compareTexts_orders
  have hname : ∀ n, ¬ Names "scanner-host" n := not_names_of_value? (by decide +kernel)
  have hzero : ∀ n, ¬ Names "010.0.0.1" n := not_names_of_value? (by decide +kernel)
  have hblank : Names " 10.0.0.1" (0xFFFF * 2 ^ 32 + number 10 0 0 1) :=
    value?_eq_some_iff.1 (by decide +kernel)
  have hlocal : Names "fe80::1" (0xFE80 * 2 ^ 112 + 1) := value?_eq_some_iff.1 (by decide +kernel)
  have hremote : dotted 192 168 1 1 = "192.168.1.1" := by decide +kernel
  have hnear : dotted 10 0 0 1 = "10.0.0.1" := by decide +kernel
  refine ⟨hkind _ _ _ hname hblank, (htext _ _ hname hzero).trans (by decide +kernel),
    (hvalue _ _ _ _ hblank hlocal).trans (by decide +kernel), ?_,
    (hkeys neighbours).2.2 _ (by decide +kernel) (by decide +kernel)⟩
  rw [← hremote, ← hnear, hdotted]
  decide +kernel

end ScanQuery.Address
