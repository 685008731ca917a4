import ScanQuery.Proofs.Text.Lowering
import ScanQuery.Proofs.Text.Split

/-!
Texts that differ in the case of ASCII letters. The ASCII folding turns letters into letters and
leaves everything else, so it goes along with cutting at a separator without letters and with
trimming. The full lower case of a folded text is that of the text: a letter is cased in either
case, so the words stay what they are and so do the sigmas at their ends.
-/

namespace ScanQuery.Text

/-- The texts differ in the case of the letters A to Z at most. -/
def Recased (s t : String) : Prop :=
  asciiLower s = asciiLower t

instance (s t : String) : Decidable (Recased s t) :=
  inferInstanceAs (Decidable (_ = _))

theorem toList_asciiLower (s : String) : (asciiLower s).toList = s.toList.map Char.toLower := by
  rw [asciiLower, String.toList_ofList]

theorem asciiLower_append (s t : String) : asciiLower (s ++ t) = asciiLower s ++ asciiLower t := by
  rw [← String.toList_inj]
  simp only [toList_asciiLower, String.toList_append, List.map_append]

theorem equalIgnoringAsciiCase_iff {s t : String} :
    equalIgnoringAsciiCase s t = true ↔ Recased s t := by
  rw [equalIgnoringAsciiCase, beq_iff_eq, ← toList_asciiLower, ← toList_asciiLower,
    String.toList_inj, Recased]

/-- Texts that differ in case are equal to the same texts up to case. -/
theorem Recased.equalIgnoringAsciiCase_eq {s t : String} (h : Recased s t) (v : String) :
    equalIgnoringAsciiCase v s = equalIgnoringAsciiCase v t := by
  rw [equalIgnoringAsciiCase, equalIgnoringAsciiCase, ← toList_asciiLower s, h,
    toList_asciiLower]

/-! ### Characters -/

theorem toLower_toLower (c : Char) : c.toLower.toLower = c.toLower := by
  by_cases h : c.toNat < 0x80
  · exact toLower_toLower_of_ascii h
  · exact congrArg Char.toLower (toLower_of_not_ascii h)

theorem toLower_of_not_isAlpha {c : Char} (h : c.isAlpha = false) : c.toLower = c := by
  rw [Char.isAlpha, Bool.or_eq_false_iff] at h
  exact Char.toLower_eq_of_not_isUpper (ne_true_of_eq_false h.1)

/-- Only the character itself is folded to one that is no letter. -/
theorem toLower_eq_iff {c d : Char} (hd : d.isAlpha = false) : c.toLower = d ↔ c = d := by
  constructor
  · intro h
    have hc : c.isAlpha = false := by
      rw [← Char.isLower_toLower_eq_isAlpha, h]
      rw [Char.isAlpha, Bool.or_eq_false_iff] at hd
      exact hd.2
    rw [← h, toLower_of_not_isAlpha hc]
  · rintro rfl
    exact toLower_of_not_isAlpha hd

/-- What is no letter is in both of two texts that differ in case, or in neither. -/
theorem Recased.mem_iff {s t : String} (h : Recased s t) {d : Char} (hd : d.isAlpha = false) :
    d ∈ s.toList ↔ d ∈ t.toList := by
  have hfolded : ∀ u : String, d ∈ (asciiLower u).toList ↔ d ∈ u.toList := by
    intro u
    rw [toList_asciiLower, List.mem_map]
    simp only [toLower_eq_iff hd, exists_eq_right]
  rw [← hfolded s, h, hfolded t]

theorem isBlank_toLower (c : Char) : isBlank c.toLower = isBlank c := by
  cases hc : c.isAlpha with
  | false => rw [toLower_of_not_isAlpha hc]
  | true =>
    have hlower : c.toLower.isAlpha = true := by
      rw [Char.isAlpha, Char.isLower_toLower_eq_isAlpha, hc, Bool.or_true]
    rw [isBlank_of_isAlpha hc, isBlank_of_isAlpha hlower]

/-- A letter has one lower case in either case, and is cased and not skipped in both. -/
theorem case_toLower (c : Char) : lowerChar c.toLower = lowerChar c ∧
    inRanges caseIgnorableRanges c.toLower.toNat = inRanges caseIgnorableRanges c.toNat ∧
    inRanges casedRanges c.toLower.toNat = inRanges casedRanges c.toNat := by
  by_cases h : c.toNat < 0x80
  · refine forall_ascii (P := fun c => lowerChar c.toLower = lowerChar c ∧
      inRanges caseIgnorableRanges c.toLower.toNat = inRanges caseIgnorableRanges c.toNat ∧
      inRanges casedRanges c.toLower.toNat = inRanges casedRanges c.toNat) ?_ h
    decide +kernel
  · rw [toLower_of_not_ascii h]
    exact ⟨rfl, rfl, rfl⟩

/-! ### Cutting and trimming -/

section Cutting

variable {sep : String} (hsep : ∀ d ∈ sep.toList, d.isAlpha = false)

include hsep

theorem splitOnce?_asciiLower (s : String) :
    splitOnce? sep (asciiLower s) =
      (splitOnce? sep s).map fun (before, after) => (asciiLower before, asciiLower after) := by
  rw [splitOnce?, splitOnce?, toList_asciiLower,
    cutAt?_map (fun d hd _ => toLower_eq_iff (hsep d hd))]
  simp [asciiLower, Function.comp_def]

theorem split_asciiLower (s : String) :
    split sep (asciiLower s) = (split sep s).map asciiLower := by
  rw [split, split, toList_asciiLower,
    splitChars_map (fun d hd _ => toLower_eq_iff (hsep d hd))]
  simp [asciiLower, Function.comp_def]

end Cutting

theorem dropWhile_isBlank_map_toLower (cs : List Char) :
    (cs.map Char.toLower).dropWhile isBlank = (cs.dropWhile isBlank).map Char.toLower := by
  rw [List.dropWhile_map, show isBlank ∘ Char.toLower = isBlank from funext isBlank_toLower]

theorem trim_asciiLower (s : String) : trim (asciiLower s) = asciiLower (trim s) := by
  simp only [trim, asciiLower, String.toList_ofList, trimChars, stripWhile, dropEndWhile,
    dropWhile_isBlank_map_toLower, ← List.map_reverse]

/-! ### Full case -/

theorem startsCased_map_toLower (cs : List Char) :
    startsCased (cs.map Char.toLower) = startsCased cs := by
  have hskip : (fun c => !inRanges caseIgnorableRanges c.toNat) ∘ Char.toLower =
      fun c => !inRanges caseIgnorableRanges c.toNat :=
    funext fun c => congrArg Bool.not (case_toLower c).2.1
  rw [startsCased, startsCased, List.find?_map, hskip]
  cases cs.find? fun c => !inRanges caseIgnorableRanges c.toNat with
  | none => rfl
  | some c => exact (case_toLower c).2.2

theorem lowerFrom_map_toLower : ∀ cs before : List Char,
    lowerFrom (before.map Char.toLower) (cs.map Char.toLower) = lowerFrom before cs
  | [], _ => rfl
  | c :: cs, before => by
    have hsigma : c.toLower = 'Σ' ↔ c = 'Σ' := toLower_eq_iff (by decide)
    have hcs := lowerFrom_map_toLower cs (c :: before)
    rw [List.map_cons] at hcs ⊢
    simp only [lowerFrom, hsigma, lowerSigma, startsCased_map_toLower, (case_toLower c).1, hcs]

/-- Folding the ASCII letters first changes nothing. -/
theorem lower_asciiLower (s : String) : lower (asciiLower s) = lower s := by
  rw [lower, lower, toList_asciiLower]
  exact congrArg _ (lowerFrom_map_toLower s.toList [])

theorem Recased.lower_eq {s t : String} (h : Recased s t) : lower s = lower t := by
  rw [← lower_asciiLower s, ← lower_asciiLower t, h]

/-- A text in lower case is folded already. -/
theorem asciiLower_lower (s : String) : asciiLower (lower s) = lower s := by
  rw [lower, asciiLower, String.toList_ofList]
  refine congrArg _ ((List.map_congr_left fun c hc => ?_).trans (List.map_id _))
  exact (inLowerCase_of_mem_lowerFrom s.toList [] hc).toLower_eq

theorem asciiLower_asciiLower (s : String) : asciiLower (asciiLower s) = asciiLower s := by
  rw [← String.toList_inj, toList_asciiLower, toList_asciiLower, List.map_map]
  exact List.map_congr_left fun c _ => toLower_toLower c

end ScanQuery.Text
