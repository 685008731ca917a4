import Mathlib
import ScanQuery.Text.Case

/-!
The two foldings of letter case. On ASCII texts they agree. Elsewhere the full one leads from a
character beyond ASCII to one that is still beyond ASCII, the Kelvin sign apart, whose lower case
is the letter `k`; so a word of ASCII letters other than `k` is the ASCII folding of a text if and
only if it is the ASCII folding of the text in lower case.
-/

namespace ScanQuery.Text

theorem toLower_of_not_ascii {c : Char} (h : ¬ c.toNat < 0x80) : c.toLower = c := by
  refine Char.toLower_eq_of_not_isUpper fun hupper => ?_
  have hrange : 65 ≤ c.toNat ∧ c.toNat ≤ 90 := by
    simpa [Char.isUpper, UInt32.le_iff_toNat_le] using hupper
  omega

/-! ### ASCII -/

/-- A property of ASCII characters can be checked at their codes. -/
theorem forall_ascii {P : Char → Prop} (h : ∀ n < 0x80, P (Char.ofNat n)) {c : Char}
    (hc : c.toNat < 0x80) : P c := by
  have hcode := h c.toNat hc
  rwa [Char.ofNat_toNat] at hcode

theorem toLower_toLower_of_ascii {c : Char} (h : c.toNat < 0x80) :
    c.toLower.toLower = c.toLower :=
  forall_ascii (P := fun c => c.toLower.toLower = c.toLower) (by decide +kernel) h

/-- A text is made of letters when it is one of letters in lower case. -/
theorem isAlpha_of_mem_of_asciiLower {s word : String} (hword : ∀ e ∈ word.toList, e.isLower = true)
    (h : asciiLower s = word) {d : Char} (hd : d ∈ s.toList) : d.isAlpha = true := by
  have hmem : d.toLower ∈ word.toList := by
    rw [← h, asciiLower, String.toList_ofList]
    exact List.mem_map_of_mem hd
  rw [← Char.isLower_toLower_eq_isAlpha]
  exact hword d.toLower hmem

theorem lowerFrom_cons_ascii {c : Char} (h : c.toNat < 0x80) (before cs : List Char) :
    lowerFrom before (c :: cs) = c.toLower :: lowerFrom (c :: before) cs := by
  have hsigma : c ≠ 'Σ' := by
    rintro rfl
    exact absurd h (by decide)
  rw [lowerFrom, if_neg hsigma, lowerChar, if_pos h]
  rfl

/-- The foldings agree on ASCII texts. -/
theorem lowerFrom_ascii : ∀ (cs before : List Char), (∀ c ∈ cs, c.toNat < 0x80) →
    lowerFrom before cs = cs.map Char.toLower
  | [], _, _ => rfl
  | c :: cs, before, h => by
    rw [lowerFrom_cons_ascii (h c List.mem_cons_self), List.map_cons,
      lowerFrom_ascii cs (c :: before) fun d hd => h d (List.mem_cons_of_mem c hd)]

/-- A text whose ASCII folding is an ASCII word is lowered to this word. -/
theorem lower_eq_of_asciiLower {s word : String} (hword : ∀ d ∈ word.toList, d.toNat < 0x80)
    (h : asciiLower s = word) : lower s = word := by
  have hascii : ∀ c ∈ s.toList, c.toNat < 0x80 := by
    intro c hc
    by_contra hnot
    have hmem : c.toLower ∈ word.toList := by
      rw [← h, asciiLower, String.toList_ofList]
      exact List.mem_map_of_mem hc
    exact hnot (toLower_of_not_ascii hnot ▸ hword _ hmem)
  rw [lower, lowerFrom_ascii _ _ hascii, ← asciiLower, h]

/-! ### Runs -/

/-- Whether `n` is one of the characters of a run. -/
def CaseRun.covers (run : CaseRun) (n : Nat) : Bool :=
  run.first ≤ n && n ≤ run.last && (n - run.first) % run.step == 0

theorem CaseRun.covers_iff {run : CaseRun} {n : Nat} :
    run.covers n = true ↔ run.first ≤ n ∧ n ≤ run.last ∧ (n - run.first) % run.step = 0 := by
  simp [covers, and_assoc]

/-- A character is shifted along a run that covers it or stays as it is. -/
theorem shiftCase_cases (runs : List CaseRun) (c : Char) :
    shiftCase runs c = c ∨ ∃ run ∈ runs, run.covers c.toNat = true ∧
      shiftCase runs c = Char.ofNat (c.toNat + run.shift).toNat := by
  rw [shiftCase]
  cases hfind : runs.find? (c.toNat ≤ ·.last) with
  | none => exact .inl rfl
  | some run =>
    have hlast : c.toNat ≤ run.last := by simpa using List.find?_some hfind
    dsimp only
    split
    · next hin =>
      refine .inr ⟨run, List.mem_of_find?_eq_some hfind, ?_, rfl⟩
      simp_all [CaseRun.covers]
    · exact .inl rfl

/-! ### Beyond ASCII -/

/-- The runs lead to characters beyond ASCII, the Kelvin sign apart. -/
theorem image_lowerCaseRuns : ∀ run ∈ lowerCaseRuns,
    (0x80 ≤ run.first + run.shift ∧ (run.last + run.shift < 0xD800 ∨
      0xDFFF < run.first + run.shift ∧ run.last + run.shift < 0x110000)) ∨
    run.first = 0x212A ∧ run.last = 0x212A ∧ run.shift = -8383 := by
  decide +kernel

/-- The code that a run leads to is that of a character, which is beyond ASCII or a `k`. -/
theorem toNat_ofNat_shift {run : CaseRun} (hrun : run ∈ lowerCaseRuns) {n : Nat}
    (hn : run.covers n = true) :
    (0x80 ≤ run.first + run.shift ∧
      (Char.ofNat (n + run.shift).toNat).toNat = (n + run.shift).toNat) ∨
    Char.ofNat (n + run.shift).toNat = 'k' := by
  obtain ⟨hfirst, hlast, -⟩ := CaseRun.covers_iff.1 hn
  rcases image_lowerCaseRuns run hrun with ⟨hbeyond, hchar⟩ | ⟨hfirst', hlast', hshift⟩
  · have hvalid : (n + run.shift).toNat.isValidChar := by
      rcases hchar with hchar | hchar
      · exact .inl (by omega)
      · exact .inr ⟨by omega, by omega⟩
    refine .inl ⟨hbeyond, ?_⟩
    rw [Char.ofNat, dif_pos hvalid]
    rfl
  · obtain rfl : n = 0x212A := by omega
    rw [hshift]
    exact .inr (by decide)

/-- The lower case of a character beyond ASCII holds a character beyond ASCII or a `k`. -/
theorem exists_mem_lowerChar {c : Char} (h : ¬ c.toNat < 0x80) :
    ∃ d ∈ lowerChar c, ¬ d.toNat < 0x80 ∨ d = 'k' := by
  rw [lowerChar, if_neg h]
  split
  · exact ⟨'\u0307', List.mem_cons_of_mem _ List.mem_cons_self, .inl (by decide)⟩
  refine ⟨_, List.mem_cons_self, ?_⟩
  rcases shiftCase_cases lowerCaseRuns c with hsame | ⟨run, hrun, hcovers, hshift⟩
  · rw [hsame]
    exact .inl h
  · rw [hshift]
    rcases toNat_ofNat_shift hrun hcovers with ⟨hbeyond, hcode⟩ | hk
    · have hfirst := (CaseRun.covers_iff.1 hcovers).1
      exact .inl (by omega)
    · exact .inr hk

theorem exists_mem_lowerFrom {c : Char} (h : ¬ c.toNat < 0x80) (before cs : List Char) :
    ∃ d ∈ lowerFrom before (c :: cs), ¬ d.toNat < 0x80 ∨ d = 'k' := by
  rw [lowerFrom]
  split
  · refine ⟨lowerSigma before cs, List.mem_append_left _ List.mem_cons_self, .inl ?_⟩
    rw [lowerSigma]
    split <;> decide
  · obtain ⟨d, hd, hbeyond⟩ := exists_mem_lowerChar h
    exact ⟨d, List.mem_append_left _ hd, hbeyond⟩

/-- An ASCII word without `k` is the folding of a text exactly if it is so in lower case. -/
theorem map_toLower_lowerFrom_eq_iff : ∀ (cs before : List Char) {word : List Char},
    (∀ d ∈ word, d.toNat < 0x80 ∧ d ≠ 'k') →
    ((lowerFrom before cs).map Char.toLower = word ↔ cs.map Char.toLower = word)
  | [], _, _, _ => Iff.rfl
  | c :: cs, before, word, hword => by
    by_cases hc : c.toNat < 0x80
    · rw [lowerFrom_cons_ascii hc, List.map_cons, List.map_cons,
        toLower_toLower_of_ascii hc]
      cases word with
      | nil => simp
      | cons d word =>
        have ih := map_toLower_lowerFrom_eq_iff cs (c :: before) fun d hd =>
          hword d (List.mem_cons_of_mem _ hd)
        rw [List.cons_eq_cons, List.cons_eq_cons, ih]
    · -- neither folding is an ASCII word
      have hlower : (lowerFrom before (c :: cs)).map Char.toLower ≠ word := by
        rintro rfl
        obtain ⟨d, hd, hbeyond⟩ := exists_mem_lowerFrom hc before cs
        obtain ⟨hascii, hk⟩ := hword d.toLower (List.mem_map_of_mem hd)
        rcases hbeyond with hbeyond | rfl
        · exact hbeyond (toLower_of_not_ascii hbeyond ▸ hascii)
        · exact hk (by decide)
      have hplain : (c :: cs).map Char.toLower ≠ word := by
        rintro rfl
        exact hc (toLower_of_not_ascii hc ▸ (hword c.toLower List.mem_cons_self).1)
      exact iff_of_false hlower hplain

theorem asciiLower_lower_eq_iff {s word : String}
    (hword : ∀ d ∈ word.toList, d.toNat < 0x80 ∧ d ≠ 'k') :
    asciiLower (lower s) = word ↔ asciiLower s = word := by
  rw [asciiLower, asciiLower, ← String.toList_inj, ← String.toList_inj, String.toList_ofList,
    String.toList_ofList, lower, String.toList_ofList]
  exact map_toLower_lowerFrom_eq_iff s.toList [] hword

end ScanQuery.Text
