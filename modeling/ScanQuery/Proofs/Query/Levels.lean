import ScanQuery.Proofs.Query.OwnAttribute

/-!
Selecting by level. The clause `sev=` with the code of a level compares the number that the severity
attribute of a finding holds, while the level that is shown for it is that of a single digit. The
two readings agree on the digits of the scale and on all that counts as zero, be it no number at
all. A level written as another number, as in `+3` or `03`, is selected and not shown, and a number
off the scale is selected by no level and shown as the lowest.
-/

namespace ScanQuery

namespace Severity

theorem ordinal_injective : Function.Injective ordinal := by
  intro a b h
  cases a <;> cases b <;> simp [ordinal] at h ⊢

/-- The numbers that are the place of a level are those of the scale. -/
theorem exists_ordinal_eq_iff {n : Int} :
    (∃ level : Severity, n = level.ordinal) ↔ 0 ≤ n ∧ n ≤ 4 := by
  constructor
  · rintro ⟨level, rfl⟩
    cases level <;> decide
  · rintro ⟨hzero, hfour⟩
    have hcases : n = 0 ∨ n = 1 ∨ n = 2 ∨ n = 3 ∨ n = 4 := by omega
    rcases hcases with rfl | rfl | rfl | rfl | rfl
    · exact ⟨informational, rfl⟩
    · exact ⟨low, rfl⟩
    · exact ⟨medium, rfl⟩
    · exact ⟨high, rfl⟩
    · exact ⟨critical, rfl⟩

/-! ### The two readings of a severity attribute -/

/-- Whether a severity attribute is read as the level that is shown for it: it is a digit of a level
above the lowest, with white space around it or not, or counts as zero. -/
def ReadAsShown (raw : String) : Prop :=
  Text.trim raw ∈ ["1", "2", "3", "4"] ∨ reportOrdinal raw = 0

instance (raw : String) : Decidable (ReadAsShown raw) :=
  inferInstanceAs (Decidable (_ ∨ _))

/-- A digit of a level is read as the place of the level that is shown. -/
theorem ordinal_ofReport_of_digit {raw : String} (h : Text.trim raw ∈ ["1", "2", "3", "4"]) :
    ((ofReport raw).ordinal : Int) = reportOrdinal raw := by
  simp only [List.mem_cons, List.not_mem_nil, or_false] at h
  rw [ofReport, reportOrdinal]
  rcases h with h | h | h | h <;> rw [h] <;> decide

/-- Whatever is no digit of a level above the lowest is shown as the lowest. -/
theorem ofReport_of_no_digit {raw : String} (h : Text.trim raw ∉ ["1", "2", "3", "4"]) :
    ofReport raw = informational := by
  simp only [List.mem_cons, List.not_mem_nil, or_false, not_or] at h
  obtain ⟨hone, htwo, hthree, hfour⟩ := h
  rw [ofReport, ofDigit, if_neg hfour, if_neg hthree, if_neg htwo, if_neg hone]

theorem ordinal_ofReport_eq_iff (raw : String) :
    reportOrdinal raw = (ofReport raw).ordinal ↔ ReadAsShown raw := by
  by_cases hdigit : Text.trim raw ∈ ["1", "2", "3", "4"]
  · exact iff_of_true (ordinal_ofReport_of_digit hdigit).symm (.inl hdigit)
  · rw [ofReport_of_no_digit hdigit, ReadAsShown, or_iff_right hdigit]
    rfl

theorem ofReport_of_not_readAsShown {raw : String} (h : ¬ ReadAsShown raw) :
    ofReport raw = informational :=
  ofReport_of_no_digit fun hdigit => h (.inl hdigit)

end Severity

namespace Query

/-! ### The clause of a level -/

/-- The clause of a level selects the findings with the number of the level. -/
theorem holds_asking_level (s : Sighting) (level : Severity) :
    (parse (asking .severity level.code)).holds s = true ↔ s.finding.ordinal = level.ordinal := by
  have hwhole : WholeValue level.code := by cases level <;> decide
  have hplain : ∀ d ∈ ['<', '>'], d ∉ level.code.toList := by cases level <;> simp [Severity.code]
  have htrim : Text.trim level.code = level.code := by cases level <;> decide
  rw [holds_asking s .severity hwhole, Condition.parse_asking .severity hplain,
    splitValues_of_comma hwhole.comma, htrim, Condition.among, List.map_singleton, ofCode_lower,
    Severity.ofCode_code]
  simp [Condition.holds, Comparison.compare]

/-- Levels select findings by number. The level that is shown is the one that selects a finding
exactly if its attribute is read as it is shown; otherwise the lowest level is shown and does not
select it. One level selects a finding, and only one, if its number is on the scale. -/
theorem levels_select (s : Sighting) :
    (∀ level : Severity, (parse (asking .severity level.code)).holds s = true ↔
      s.finding.ordinal = level.ordinal) ∧
    ((∀ level : Severity, (parse (asking .severity level.code)).holds s = true ↔
      s.finding.level = level) ↔ Severity.ReadAsShown s.finding.severity) ∧
    (¬ Severity.ReadAsShown s.finding.severity → s.finding.level = .informational ∧
      (parse (asking .severity Severity.informational.code)).holds s = false) ∧
    ((∃! level : Severity, (parse (asking .severity level.code)).holds s = true) ↔
      0 ≤ s.finding.ordinal ∧ s.finding.ordinal ≤ 4) := by
  refine ⟨holds_asking_level s, ?_, fun hother => ⟨?_, ?_⟩, ?_⟩
  · simp only [holds_asking_level]
    rw [← Severity.ordinal_ofReport_eq_iff]
    constructor
    · intro h
      exact (h s.finding.level).2 rfl
    · intro h level
      rw [Finding.ordinal, h, Int.ofNat_inj, Severity.ordinal_injective.eq_iff]
      rfl
  · exact Severity.ofReport_of_not_readAsShown hother
  · rw [← Bool.not_eq_true, holds_asking_level]
    exact fun hzero => hother (.inr hzero)
  · simp only [holds_asking_level]
    rw [← Severity.exists_ordinal_eq_iff]
    constructor
    · exact ExistsUnique.exists
    · rintro ⟨level, hlevel⟩
      refine ⟨level, hlevel, fun other hother => ?_⟩
      exact Severity.ordinal_injective (Int.ofNat_inj.1 (hother.symm.trans hlevel))

/-- A finding with a severity attribute. -/
def sightingOfSeverity (raw : String) : Sighting :=
  ⟨"10.0.0.9", "23/tcp", ⟨"10281", "Telnet Server", raw, "", none⟩⟩

/-- A level with a leading zero is selected by the level of its number and by no other, and shown as
the lowest. -/
theorem levels_select_leading_zero :
    ¬ Severity.ReadAsShown (sightingOfSeverity "03").finding.severity ∧
      (sightingOfSeverity "03").finding.level = .informational ∧
      (parse (asking .severity Severity.high.code)).holds (sightingOfSeverity "03") = true ∧
      ∃! level : Severity,
        (parse (asking .severity level.code)).holds (sightingOfSeverity "03") = true := by
  obtain ⟨hnumber, -, hother, hone⟩ := levels_select (sightingOfSeverity "03")
  have hread : (sightingOfSeverity "03").finding.ordinal = 3 := by decide +kernel
  have hunshown : ¬ Severity.ReadAsShown (sightingOfSeverity "03").finding.severity := by
    decide +kernel
  refine ⟨hunshown, (hother hunshown).1, (hnumber .high).2 hread, hone.2 ?_⟩
  rw [hread]
  decide

/-- A level with a leading zero or a sign is selected and not shown, and a number off the scale is
selected by no level. -/
theorem levels_select_unshown :
    ((parse (asking .severity "hig")).holds (sightingOfSeverity "03") = true ∧
      (sightingOfSeverity "03").finding.level = .informational) ∧
    ((parse (asking .severity "hig")).holds (sightingOfSeverity "+3") = true ∧
      (sightingOfSeverity "+3").finding.level = .informational) ∧
    ((∀ level ∈ Severity.all,
        (parse (asking .severity level.code)).holds (sightingOfSeverity "7") = false) ∧
      (sightingOfSeverity "7").finding.level = .informational) := by
  decide +kernel

end Query

end ScanQuery
