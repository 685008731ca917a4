import Mathlib
import ScanQuery.Text.Decimal

/-!
Numerals. A text denotes an integer when it is one or more digits, behind a sign or not; the last
digit counts ones, the one before it tens, and so on. What is read as an integer is a numeral, every
numeral is read as the integer that it denotes, and the integers that are read are those of 64 bits.
-/

namespace ScanQuery.Text

/-- One or more decimal digits and nothing else. -/
def Digits (cs : List Char) : Prop :=
  cs ≠ [] ∧ ∀ c ∈ cs, c.isDigit = true

/-- The number of which the digits are the decimal places. -/
def placeValue (cs : List Char) : Nat :=
  Nat.ofDigits 10 (cs.reverse.map digitValue)

/-- The text is a numeral for the integer: digits, behind a sign or not. -/
inductive Denotes : List Char → Int → Prop where
  | unsigned {cs : List Char} (h : Digits cs) : Denotes cs (placeValue cs)
  | plus {cs : List Char} (h : Digits cs) : Denotes ('+' :: cs) (placeValue cs)
  | minus {cs : List Char} (h : Digits cs) : Denotes ('-' :: cs) (-placeValue cs)

/-- Reading from the left adds up the places. -/
theorem foldl_eq_ofDigits {α : Type} (base : Nat) (value : α → Nat) (l : List α) :
    l.foldl (fun n a => base * n + value a) 0 = Nat.ofDigits base (l.map value).reverse := by
  rw [Nat.ofDigits_eq_foldr, ← List.foldl_reverse, List.reverse_reverse, List.foldl_map]
  congr 1
  funext n a
  exact Nat.add_comm _ _

theorem digitsValue_eq_placeValue (cs : List Char) : digitsValue cs = placeValue cs := by
  rw [digitsValue, foldl_eq_ofDigits, placeValue, List.map_reverse]

theorem natural?_eq_some_iff {cs : List Char} {n : Nat} :
    natural? cs = some n ↔ Digits cs ∧ n = placeValue cs := by
  have hdigits : (cs.isEmpty || !cs.all Char.isDigit) = true ↔ ¬ Digits cs := by
    rw [Digits, not_and_or, not_not, Bool.or_eq_true, List.isEmpty_iff, Bool.not_eq_true',
      ← Bool.not_eq_true, List.all_eq_true]
  rw [natural?, digitsValue_eq_placeValue]
  by_cases h : Digits cs
  · rw [if_neg (hdigits.not.2 (not_not.2 h)), Option.some_inj, and_iff_right h, eq_comm]
  · rw [if_pos (hdigits.2 h)]
    exact iff_of_false (by simp) fun hn => h hn.1

/-- A sign is no digit. -/
theorem Digits.ne_sign {c : Char} {cs : List Char} (h : Digits (c :: cs)) : c ≠ '+' ∧ c ≠ '-' := by
  have hc := h.2 c List.mem_cons_self
  constructor
  · rintro rfl
    exact absurd hc (by decide)
  · rintro rfl
    exact absurd hc (by decide)

/-- What is read as an integer is a numeral for it. -/
theorem integer?_eq_some_iff {cs : List Char} {n : Int} : integer? cs = some n ↔ Denotes cs n := by
  constructor
  · intro h
    unfold integer? at h
    split at h
    all_goals
      obtain ⟨m, hm, rfl⟩ := Option.map_eq_some_iff.1 h
      obtain ⟨hdigits, rfl⟩ := natural?_eq_some_iff.1 hm
    · exact .plus hdigits
    · exact .minus hdigits
    · exact .unsigned hdigits
  · intro h
    cases h with
    | plus hdigits => rw [integer?, natural?_eq_some_iff.2 ⟨hdigits, rfl⟩]; rfl
    | minus hdigits => rw [integer?, natural?_eq_some_iff.2 ⟨hdigits, rfl⟩]; rfl
    | unsigned hdigits =>
      have hread := natural?_eq_some_iff.2 ⟨hdigits, rfl⟩
      unfold integer?
      split
      · exact absurd rfl hdigits.ne_sign.1
      · exact absurd rfl hdigits.ne_sign.2
      · rw [hread]; rfl

/-- The integers from -2⁶³ to 2⁶³ - 1. -/
def InInt64 (n : Int) : Prop :=
  -2 ^ 63 ≤ n ∧ n ≤ 2 ^ 63 - 1

instance (n : Int) : Decidable (InInt64 n) :=
  inferInstanceAs (Decidable (_ ∧ _))

theorem inInt64_iff {n : Int} : inInt64 n = true ↔ InInt64 n := by
  rw [inInt64, InInt64, Bool.and_eq_true, decide_eq_true_eq, decide_eq_true_eq]
  omega

theorem int64?_eq_some_iff {s : String} {n : Int} :
    int64? s = some n ↔ Denotes s.toList n ∧ InInt64 n := by
  rw [int64?, Option.filter_eq_some_iff, integer?_eq_some_iff, inInt64_iff]

/-- A text is a numeral for one integer at most. -/
theorem Denotes.unique {cs : List Char} {m n : Int} (hm : Denotes cs m) (hn : Denotes cs n) :
    m = n :=
  Option.some_inj.1 ((integer?_eq_some_iff.2 hm).symm.trans (integer?_eq_some_iff.2 hn))

/-! ### Natural numbers -/

/-- The text is a numeral for a natural number: digits, behind a plus sign or not. -/
inductive Counts : List Char → Nat → Prop where
  | unsigned {cs : List Char} (h : Digits cs) : Counts cs (placeValue cs)
  | plus {cs : List Char} (h : Digits cs) : Counts ('+' :: cs) (placeValue cs)

theorem counts_plus_iff {cs : List Char} {n : Nat} :
    Counts ('+' :: cs) n ↔ Digits cs ∧ n = placeValue cs := by
  constructor
  · intro h
    cases h with
    | plus hdigits => exact ⟨hdigits, rfl⟩
    | unsigned hdigits => exact absurd rfl hdigits.ne_sign.1
  · rintro ⟨hdigits, rfl⟩
    exact .plus hdigits

theorem counts_iff_of_ne_plus {cs : List Char} (hplain : ∀ ds, cs ≠ '+' :: ds) {n : Nat} :
    Counts cs n ↔ Digits cs ∧ n = placeValue cs := by
  constructor
  · intro h
    cases h with
    | plus hdigits => exact absurd rfl (hplain _)
    | unsigned hdigits => exact ⟨hdigits, rfl⟩
  · rintro ⟨hdigits, rfl⟩
    exact .unsigned hdigits

/-- What is read as a number of 32 bits is a numeral for one. -/
theorem nat32?_eq_some_iff {s : String} {n : Nat} :
    nat32? s = some n ↔ Counts s.toList n ∧ n < 2 ^ 32 := by
  rw [nat32?, Option.filter_eq_some_iff, natural?_eq_some_iff, decide_eq_true_eq]
  refine and_congr_left fun _ => ?_
  split
  · next hplus => rw [hplus, counts_plus_iff]
  · next hplain => rw [counts_iff_of_ne_plus hplain]

/-! ### Written numbers -/

/-- A natural number is written in digits. -/
theorem digits_toDigits (n : Nat) : Digits (Nat.toDigits 10 n) :=
  ⟨Nat.toDigits_ne_nil, fun _ hc => Nat.isDigit_of_mem_toDigits (by decide) (by decide) hc⟩

theorem placeValue_toDigits (n : Nat) : placeValue (Nat.toDigits 10 n) = n := by
  rw [← digitsValue_eq_placeValue]
  exact Nat.ofDigitChars_toDigits (by decide) (by decide)

/-- Nothing but zero is written with a zero in front. -/
theorem eq_zero_of_head?_toDigits {n : Nat} (h : (Nat.toDigits 10 n).head? = some '0') : n = 0 := by
  induction n using Nat.strongRecOn with
  | ind n ih =>
    rw [Nat.toDigits_eq_if (by decide)] at h
    split at h
    · simpa using h
    · next hn =>
      rw [List.head?_append_of_ne_nil _ Nat.toDigits_ne_nil] at h
      have := ih (n / 10) (by omega) h
      omega

theorem toNat_of_isDigit {c : Char} (h : c.isDigit = true) : 48 ≤ c.toNat ∧ c.toNat ≤ 57 := by
  simpa [Char.isDigit, UInt32.le_iff_toNat_le] using h

theorem digitValue_lt {c : Char} (h : c.isDigit = true) : digitValue c < 10 := by
  have hrange := toNat_of_isDigit h
  simp only [digitValue, Char.reduceToNat]
  omega

theorem digitChar_digitValue {c : Char} (h : c.isDigit = true) :
    (digitValue c).digitChar = c := by
  have hrange := toNat_of_isDigit h
  apply Char.toNat_inj.mp
  rw [Nat.toNat_digitChar_of_lt_ten (digitValue_lt h)]
  simp only [digitValue, Char.reduceToNat]
  omega

/-- Digits without a superfluous zero in front are what their number is written with. -/
theorem toDigits_digitsValue {cs : List Char} (h : Digits cs)
    (hzero : cs.head? = some '0' → cs.length = 1) : Nat.toDigits 10 (digitsValue cs) = cs := by
  induction cs using List.reverseRecOn with
  | nil => exact absurd rfl h.1
  | append_singleton init c ih =>
    have hc : c.isDigit = true := h.2 c (List.mem_append_right init List.mem_cons_self)
    have hvalue : digitsValue (init ++ [c]) = 10 * digitsValue init + digitValue c := by
      rw [digitsValue, List.foldl_append]
      rfl
    rcases eq_or_ne init [] with rfl | hinit
    · rw [hvalue, show digitsValue [] = 0 from rfl, Nat.mul_zero, Nat.zero_add,
        Nat.toDigits_of_lt_base (digitValue_lt hc), digitChar_digitValue hc]
      rfl
    · have hhead : init.head? ≠ some '0' := by
        intro hfirst
        have hone := hzero (by rw [List.head?_append, hfirst]; rfl)
        exact hinit (by simpa using hone)
      have hwritten := ih ⟨hinit, fun d hd => h.2 d (List.mem_append_left [c] hd)⟩
        fun hfirst => absurd hfirst hhead
      have hpos : 0 < digitsValue init := by
        refine Nat.pos_of_ne_zero fun hnull => ?_
        rw [hnull] at hwritten
        exact hhead (by rw [← hwritten]; rfl)
      rw [hvalue, ← Nat.toDigits_append_toDigits (by decide) hpos (digitValue_lt hc), hwritten,
        Nat.toDigits_of_lt_base (digitValue_lt hc), digitChar_digitValue hc]

end ScanQuery.Text
