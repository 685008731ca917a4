import ScanQuery.Proofs.Query.Alternatives
import ScanQuery.Proofs.Query.Levels
import ScanQuery.Proofs.Text.Numerals

/-!
Comparing levels. The severity attribute of a finding counts as the integer that it denotes, with
white space around it or not, as long as that is one of 64 bits, and as zero otherwise. A clause on
the severity compares this integer, wherever it lies, with the place of a level on the scale. So
among the clauses for less, equal and greater exactly one holds of a finding, and a clause for "at
most" says the opposite of the one for "greater".
-/

namespace ScanQuery

/-! ### The number of a severity attribute -/

/-- The attribute counts as the integer: it denotes that integer, or none that is in range and the
integer is zero. -/
def Severity.CountsAs (raw : String) (n : Int) : Prop :=
  (Text.Denotes (Text.trim raw).toList n ∧ Text.InInt64 n) ∨
    (n = 0 ∧ ∀ m, Text.Denotes (Text.trim raw).toList m → ¬ Text.InInt64 m)

/-- The number that is read is the only one that the attribute counts as. -/
theorem Severity.countsAs_iff {raw : String} {n : Int} :
    CountsAs raw n ↔ reportOrdinal raw = n := by
  rw [CountsAs, reportOrdinal]
  cases hread : Text.int64? (Text.trim raw) with
  | none =>
    have hnone : ∀ m, Text.Denotes (Text.trim raw).toList m → ¬ Text.InInt64 m := by
      intro m hm hrange
      rw [Text.int64?_eq_some_iff.2 ⟨hm, hrange⟩] at hread
      exact absurd hread (Option.some_ne_none m)
    rw [Option.getD_none, or_iff_right fun h => hnone n h.1 h.2, and_iff_left hnone, eq_comm]
  | some m =>
    have hm := Text.int64?_eq_some_iff.1 hread
    rw [Option.getD_some]
    constructor
    · rintro (⟨hn, -⟩ | ⟨-, hnone⟩)
      · exact hm.1.unique hn
      · exact absurd hm.2 (hnone m hm.1)
    · rintro rfl
      exact .inl hm

namespace Query

/-! ### The relations -/

/-- A number is below another one, equal to it or above it, and only one of these. -/
theorem Comparison.existsUnique_compare (a b : Int) :
    ∃! c : Comparison, c ∈ [lessThan, equals, greaterThan] ∧ c.compare a b = true := by
  have honly : ∀ c d : Comparison, c ∈ [lessThan, equals, greaterThan] →
      d ∈ [lessThan, equals, greaterThan] → c.compare a b = true → d.compare a b = true →
        d = c := by
    intro c d hc hd hca hda
    cases c <;> cases d <;> simp [compare] at hc hd hca hda ⊢ <;> omega
  have hone : ∃ c ∈ [lessThan, equals, greaterThan], c.compare a b = true := by
    rcases lt_trichotomy a b with hab | hab | hab
    · exact ⟨lessThan, by decide, decide_eq_true hab⟩
    · exact ⟨equals, by decide, decide_eq_true hab⟩
    · exact ⟨greaterThan, by decide, decide_eq_true hab⟩
  obtain ⟨c, hc, hca⟩ := hone
  exact ⟨c, ⟨hc, hca⟩, fun d hd => honly c d hc hd.1 hca hd.2⟩

theorem Comparison.lessThanOrEqual_compare (a b : Int) :
    lessThanOrEqual.compare a b = !greaterThan.compare a b := by
  rw [Bool.eq_iff_iff, Bool.not_eq_true', compare, compare, decide_eq_true_iff,
    decide_eq_false_iff_not, gt_iff_lt, not_lt]

/-! ### The clause -/

section Written

variable {code : String} {level : Severity} (hcode : Text.asciiLower code = level.code)

include hcode

theorem isAlpha_of_mem_code {d : Char} (h : d ∈ code.toList) : d.isAlpha = true :=
  Text.isAlpha_of_mem_of_asciiLower (by cases level <;> simp [Severity.code]) hcode h

theorem isValue_code : IsValue code := by
  intro d hd hop
  have halpha := isAlpha_of_mem_code hcode hd
  have hnone : ∀ e ∈ [',', '<', '>', '='], e.isAlpha = false := by simp
  exact absurd halpha (by simp [hnone d hop])

theorem trim_code : Text.trim code = code :=
  Text.trim_of_trimmed <| Text.trimmed_of_forall fun _ hd =>
    Text.isBlank_of_isAlpha (isAlpha_of_mem_code hcode hd)

theorem ofCode_of_asciiLower : Severity.ofCode code = level := by
  simp only [Severity.ofCode, hcode]
  cases level <;> decide

/-- Whatever the operator and the case of the code, the clause compares with the level. -/
theorem Condition.parse_level (c : Comparison) :
    Condition.parse ("sev" ++ c.token ++ code) = .severity c [level] := by
  have hsev : Text.asciiLower "sev" = Key.severity.keyword := by decide
  have hvalues : ∀ v ∈ [code], IsValue v := by
    intro v hv
    rw [List.mem_singleton.1 hv]
    exact isValue_code hcode
  have hlisting : "sev" ++ c.token ++ code = listing "sev" c [code] := by
    rw [listing, String.intercalate_singleton]
  rw [hlisting]
  by_cases hc : c = .equals
  · subst hc
    rw [parse_listing_of_equals hsev (List.cons_ne_nil code []) hvalues, List.map_singleton,
      trim_code hcode, Condition.among, List.map_singleton, ofCode_lower,
      ofCode_of_asciiLower hcode]
  · rw [parse_listing_of_ordinal hsev hc hvalues, String.intercalate_singleton, trim_code hcode,
      ofCode_of_asciiLower hcode]

/-- The clause holds when the numbers are in the relation of its operator. -/
theorem holds_level (s : Sighting) (c : Comparison) :
    (parse ("sev" ++ c.token ++ code)).holds s = c.compare s.finding.ordinal level.ordinal := by
  have hsev : Text.asciiLower "sev" = Key.severity.keyword := by decide
  have hplain : ∀ {w : List Char}, ' ' ∈ w → ¬ w <:+: code.toList := by
    intro w hspace hin
    have halpha := isAlpha_of_mem_code hcode (hin.subset hspace)
    exact absurd halpha (by decide)
  rw [holds_operatorText hsev c s (hplain (by simp)) (hplain (by simp)),
    Condition.parse_level hcode c, Condition.holds, List.any_cons, List.any_nil, Bool.or_false]

end Written

/-- Clauses on the severity compare integers. The attribute counts as exactly one integer, a clause
with an operator and the code of a level, in any case, holds when that integer is in the relation to
the place of the level, exactly one of the clauses for less, equal and greater holds, and "at most"
is the opposite of "greater". -/
theorem levels_compare (s : Sighting) :
    (∃! n : Int, Severity.CountsAs s.finding.severity n) ∧
    ∀ n : Int, Severity.CountsAs s.finding.severity n →
      ∀ (level : Severity) (code : String), Text.asciiLower code = level.code →
        ((parse ("sev=" ++ code)).holds s = true ↔ n = level.ordinal) ∧
        ((parse ("sev<" ++ code)).holds s = true ↔ n < level.ordinal) ∧
        ((parse ("sev<=" ++ code)).holds s = true ↔ n ≤ level.ordinal) ∧
        ((parse ("sev>" ++ code)).holds s = true ↔ n > level.ordinal) ∧
        ((parse ("sev>=" ++ code)).holds s = true ↔ n ≥ level.ordinal) ∧
        (∃! c : Comparison, c ∈ [.lessThan, .equals, .greaterThan] ∧
          (parse ("sev" ++ c.token ++ code)).holds s = true) ∧
        (parse ("sev<=" ++ code)).holds s = !(parse ("sev>" ++ code)).holds s := by
  refine ⟨⟨s.finding.ordinal, Severity.countsAs_iff.2 rfl,
    fun n hn => (Severity.countsAs_iff.1 hn).symm⟩, ?_⟩
  intro n hn level code hcode
  obtain rfl : s.finding.ordinal = n := Severity.countsAs_iff.1 hn
  have hholds := holds_level hcode s
  have hiff : ∀ c : Comparison, (parse ("sev" ++ c.token ++ code)).holds s = true ↔
      c.compare s.finding.ordinal level.ordinal = true := fun c => by rw [hholds c]
  refine ⟨(hiff .equals).trans decide_eq_true_iff, (hiff .lessThan).trans decide_eq_true_iff,
    (hiff .lessThanOrEqual).trans decide_eq_true_iff, (hiff .greaterThan).trans decide_eq_true_iff,
    (hiff .greaterThanOrEqual).trans decide_eq_true_iff, ?_, ?_⟩
  · simp only [hholds]
    exact Comparison.existsUnique_compare s.finding.ordinal level.ordinal
  · calc (parse ("sev<=" ++ code)).holds s
        = Comparison.lessThanOrEqual.compare s.finding.ordinal level.ordinal :=
          hholds .lessThanOrEqual
      _ = !Comparison.greaterThan.compare s.finding.ordinal level.ordinal :=
          Comparison.lessThanOrEqual_compare s.finding.ordinal level.ordinal
      _ = !(parse ("sev>" ++ code)).holds s := congrArg not (hholds .greaterThan).symm

/-- The lowest number of 64 bits is below every level, and the number below it counts as zero. -/
theorem levels_compare_at_limit :
    Severity.CountsAs " -9223372036854775808\n" (-9223372036854775808) ∧
      (parse "sev<NON").holds (sightingOfSeverity " -9223372036854775808\n") = true ∧
      Severity.CountsAs "-9223372036854775809" 0 ∧
      (parse "sev=Non").holds (sightingOfSeverity "-9223372036854775809") = true := by
  have hlowest : Severity.CountsAs " -9223372036854775808\n" (-9223372036854775808) :=
    Severity.countsAs_iff.2 (by decide +kernel)
  have hbelow : Severity.CountsAs "-9223372036854775809" 0 :=
    Severity.countsAs_iff.2 (by decide +kernel)
  have hless := ((levels_compare (sightingOfSeverity " -9223372036854775808\n")).2 _ hlowest
    .informational "NON" (by decide)).2.1
  have hequal := ((levels_compare (sightingOfSeverity "-9223372036854775809")).2 _ hbelow
    .informational "Non" (by decide)).1
  exact ⟨hlowest, hless.2 (by decide), hbelow, hequal.2 (by decide)⟩

end Query

end ScanQuery
