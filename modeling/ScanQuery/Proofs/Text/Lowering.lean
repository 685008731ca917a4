import ScanQuery.Proofs.Text.Case
import ScanQuery.Proofs.Text.Trim

/-!
Texts in lower case. A character that is the lower case of another one has no lower case but
itself, so lowering twice is lowering once. White space has no case, is not skipped when the end of
a word is looked for and does not belong to a word, so lowering leaves it alone and does the same to
what stands between it; a trimmed text in lower case is therefore a part of the text in lower case.
-/

namespace ScanQuery.Text

/-- A character that is its own lower case. -/
def InLowerCase (c : Char) : Prop :=
  lowerChar c = [c]

instance (c : Char) : Decidable (InLowerCase c) :=
  inferInstanceAs (Decidable (lowerChar c = [c]))

/-! ### Characters -/

/-- The characters that a run leads to. -/
def CaseRun.image (run : CaseRun) : CaseRun :=
  ⟨(run.first + run.shift).toNat, (run.last + run.shift).toNat, run.step, 0⟩

/-- Whether two runs share no character because one ends before the other begins or because the
second takes every other character and is out of step with the first. -/
def CaseRun.apart (a b : CaseRun) : Bool :=
  Nat.blt a.last b.first || Nat.blt b.last a.first ||
    Nat.beq b.step 2 && (Nat.beq a.step 2 || Nat.beq a.first a.last) &&
      Nat.beq ((a.first + b.first) % 2) 1

/-- The run of `İ`, whose lower case is not one character. -/
def dottedRun : CaseRun :=
  ⟨0x130, 0x130, 1, 0⟩

/-- No character that a run leads to is in a run itself. -/
theorem image_apart_lowerCaseRuns :
    lowerCaseRuns.all (fun run => (dottedRun :: lowerCaseRuns).all run.image.apart) = true := by
  decide +kernel

theorem CaseRun.not_covers_of_apart {a b : CaseRun} (h : a.apart b = true) {n : Nat}
    (ha : a.covers n = true) : ¬ b.covers n = true := by
  obtain ⟨hfirst, hlast, hstep⟩ := covers_iff.1 ha
  intro hb
  obtain ⟨hfirst', hlast', hstep'⟩ := covers_iff.1 hb
  simp only [apart, Bool.or_eq_true, Bool.and_eq_true, Nat.blt_eq, Nat.beq_eq] at h
  rcases h with (hbefore | hbehind) | ⟨⟨htwo, hsteps | hone⟩, hodd⟩
  · omega
  · omega
  · rw [hsteps] at hstep
    rw [htwo] at hstep'
    omega
  · rw [htwo] at hstep'
    omega

theorem CaseRun.covers_image {run : CaseRun} (hbelow : 0 ≤ run.first + run.shift) {n : Nat}
    (hn : run.covers n = true) : run.image.covers (n + run.shift).toNat = true := by
  obtain ⟨hfirst, hlast, hstep⟩ := covers_iff.1 hn
  have hoffset : (n + run.shift).toNat - (run.first + run.shift).toNat = n - run.first := by
    omega
  rw [covers_iff]
  simp only [image, hoffset]
  refine ⟨?_, ?_, hstep⟩
  · omega
  · omega

/-- A character beyond ASCII in none of the runs is in lower case. -/
theorem inLowerCase_of_not_covers {c : Char} (hc : ¬ c.toNat < 0x80)
    (h : ∀ run ∈ dottedRun :: lowerCaseRuns, ¬ run.covers c.toNat = true) : InLowerCase c := by
  have hdotted : c ≠ 'İ' := by
    rintro rfl
    exact h dottedRun List.mem_cons_self (by decide)
  rw [InLowerCase, lowerChar, if_neg hc, if_neg hdotted]
  rcases shiftCase_cases lowerCaseRuns c with hsame | ⟨run, hrun, hcovers, -⟩
  · rw [hsame]
  · exact absurd hcovers (h run (List.mem_cons_of_mem dottedRun hrun))

theorem inLowerCase_toLower {c : Char} (h : c.toNat < 0x80) : InLowerCase c.toLower := by
  refine forall_ascii (P := fun c => lowerChar c.toLower = [c.toLower]) ?_ h
  decide +kernel

/-- What lower case leads to is in lower case. -/
theorem inLowerCase_of_mem_lowerChar {c d : Char} (h : d ∈ lowerChar c) : InLowerCase d := by
  by_cases hc : c.toNat < 0x80
  · rw [lowerChar, if_pos hc, List.mem_singleton] at h
    rw [h]
    exact inLowerCase_toLower hc
  · by_cases hdotted : c = 'İ'
    · rw [lowerChar, if_neg hc, if_pos hdotted] at h
      have hpair : d = 'i' ∨ d = '\u0307' := by simpa using h
      rcases hpair with rfl | rfl
      · exact inLowerCase_toLower (c := 'i') (by decide)
      · decide +kernel
    · rw [lowerChar, if_neg hc, if_neg hdotted, List.mem_singleton] at h
      rcases shiftCase_cases lowerCaseRuns c with hsame | ⟨run, hrun, hcovers, hshift⟩
      · rw [InLowerCase, lowerChar, h, hsame, if_neg hc, if_neg hdotted, hsame]
      · rw [h, hshift]
        rcases toNat_ofNat_shift hrun hcovers with ⟨hbeyond, hcode⟩ | hk
        · have hfirst := (CaseRun.covers_iff.1 hcovers).1
          have himage := CaseRun.covers_image (by omega) hcovers
          refine inLowerCase_of_not_covers (by omega) fun other hother => ?_
          have hrow := List.all_eq_true.1 image_apart_lowerCaseRuns run hrun
          rw [hcode]
          exact CaseRun.not_covers_of_apart (List.all_eq_true.1 hrow other hother) himage
        · rw [hk]
          exact inLowerCase_toLower (c := 'k') (by decide)

/-! ### Texts -/

theorem InLowerCase.toLower_eq {c : Char} (h : InLowerCase c) : c.toLower = c := by
  by_cases hc : c.toNat < 0x80
  · rw [InLowerCase, lowerChar, if_pos hc] at h
    exact List.singleton_inj.1 h
  · exact toLower_of_not_ascii hc

theorem InLowerCase.ne_sigma {c : Char} (h : InLowerCase c) : c ≠ 'Σ' := by
  rintro rfl
  exact absurd h (by decide +kernel)

theorem inLowerCase_lowerSigma (before after : List Char) :
    InLowerCase (lowerSigma before after) := by
  rw [lowerSigma]
  split
  · decide +kernel
  · decide +kernel

theorem inLowerCase_of_mem_lowerFrom {d : Char} : ∀ (cs before : List Char),
    d ∈ lowerFrom before cs → InLowerCase d
  | [], _, h => nomatch h
  | c :: cs, before, h => by
    rw [lowerFrom, List.mem_append] at h
    rcases h with h | h
    · split at h
      · rw [List.mem_singleton.1 h]
        exact inLowerCase_lowerSigma before cs
      · exact inLowerCase_of_mem_lowerChar h
    · exact inLowerCase_of_mem_lowerFrom cs (c :: before) h

/-- Characters in lower case stay, whatever follows them. -/
theorem lowerFrom_append_of_inLowerCase : ∀ (cs before rest : List Char),
    (∀ c ∈ cs, InLowerCase c) →
      lowerFrom before (cs ++ rest) = cs ++ lowerFrom (cs.reverse ++ before) rest
  | [], _, _, _ => rfl
  | c :: cs, before, rest, h => by
    have hc := h c List.mem_cons_self
    have hcs := lowerFrom_append_of_inLowerCase cs (c :: before) rest fun d hd =>
      h d (List.mem_cons_of_mem c hd)
    rw [List.cons_append, lowerFrom, if_neg hc.ne_sigma, hc, hcs, List.reverse_cons,
      List.append_assoc]
    rfl

theorem lowerFrom_of_inLowerCase {cs : List Char} (before : List Char)
    (h : ∀ c ∈ cs, InLowerCase c) : lowerFrom before cs = cs := by
  have happend := lowerFrom_append_of_inLowerCase cs before [] h
  rwa [List.append_nil, lowerFrom, List.append_nil] at happend

theorem mem_lowerFrom {c : Char} (hc : InLowerCase c) : ∀ (cs before : List Char), c ∈ cs →
    c ∈ lowerFrom before cs
  | [], _, h => nomatch h
  | d :: cs, before, h => by
    rw [lowerFrom, List.mem_append]
    rcases List.mem_cons.1 h with rfl | h
    · left
      rw [if_neg hc.ne_sigma, hc]
      exact List.mem_singleton_self c
    · exact .inr (mem_lowerFrom hc cs (d :: before) h)

/-- Lowering twice is lowering once. -/
theorem lower_lower (s : String) : lower (lower s) = lower s := by
  have hlow : ∀ c ∈ lowerFrom [] s.toList, InLowerCase c :=
    fun c hc => inLowerCase_of_mem_lowerFrom s.toList [] hc
  rw [lower, lower, String.toList_ofList, lowerFrom_of_inLowerCase [] hlow]

/-- The ASCII folding of a text in lower case is that of the text if no letter beyond ASCII is
altered. -/
theorem map_toLower_lowerFrom : ∀ (cs before : List Char),
    (∀ c ∈ cs, ¬ c.toNat < 0x80 → InLowerCase c) →
      (lowerFrom before cs).map Char.toLower = cs.map Char.toLower
  | [], _, _ => rfl
  | c :: cs, before, h => by
    have hcs := map_toLower_lowerFrom cs (c :: before) fun d hd =>
      h d (List.mem_cons_of_mem c hd)
    by_cases hc : c.toNat < 0x80
    · rw [lowerFrom_cons_ascii hc, List.map_cons, List.map_cons, hcs, toLower_toLower_of_ascii hc]
    · have hlow := h c List.mem_cons_self hc
      rw [lowerFrom, if_neg hlow.ne_sigma, hlow, List.map_append, hcs]
      rfl

/-! ### White space -/

/-- The codes of the blank characters. -/
def blankCodes : List Nat :=
  [9, 10, 11, 12, 13, 0x20, 0x85, 0xA0, 0x1680, 0x2000, 0x2001, 0x2002, 0x2003, 0x2004, 0x2005,
    0x2006, 0x2007, 0x2008, 0x2009, 0x200A, 0x2028, 0x2029, 0x202F, 0x205F, 0x3000]

theorem toNat_mem_blankCodes {c : Char} (h : isBlank c = true) : c.toNat ∈ blankCodes := by
  simp only [isBlank, Bool.or_eq_true, Bool.and_eq_true, decide_eq_true_eq, beq_iff_eq] at h
  simp only [blankCodes, List.mem_cons, List.not_mem_nil, or_false]
  omega

/-- A blank is in lower case, is not skipped when a letter is looked for and is none. -/
theorem blank_case : ∀ n ∈ blankCodes, lowerChar (Char.ofNat n) = [Char.ofNat n] ∧
    inRanges caseIgnorableRanges n = false ∧ inRanges casedRanges n = false := by
  decide +kernel

/-- No run of characters leads to white space. -/
theorem image_not_blank : ∀ run ∈ lowerCaseRuns, ∀ n ∈ blankCodes,
    run.image.covers n = false := by
  decide +kernel

/-- Lowering makes no white space. -/
theorem isBlank_of_mem_lowerChar {c d : Char} (h : d ∈ lowerChar c) (hd : isBlank d = true) :
    isBlank c = true := by
  by_cases hc : c.toNat < 0x80
  · rw [lowerChar, if_pos hc, List.mem_singleton] at h
    subst h
    exact forall_ascii (P := fun c => isBlank c.toLower = true → isBlank c = true)
      (by decide +kernel) hc hd
  · by_cases hdotted : c = 'İ'
    · rw [lowerChar, if_neg hc, if_pos hdotted] at h
      have hpair : d = 'i' ∨ d = '\u0307' := by simpa using h
      rcases hpair with rfl | rfl
      · exact absurd hd (by decide)
      · exact absurd hd (by decide)
    · rw [lowerChar, if_neg hc, if_neg hdotted, List.mem_singleton] at h
      rcases shiftCase_cases lowerCaseRuns c with hsame | ⟨run, hrun, hcovers, hshift⟩
      · rwa [h, hsame] at hd
      · rcases toNat_ofNat_shift hrun hcovers with ⟨hbeyond, hcode⟩ | hk
        · have himage := CaseRun.covers_image (by omega) hcovers
          have hblank := toNat_mem_blankCodes hd
          rw [h, hshift, hcode] at hblank
          exact absurd himage (by simp [image_not_blank run hrun _ hblank])
        · rw [h, hshift, hk] at hd
          exact absurd hd (by decide)

theorem Blank.inLowerCase {cs : List Char} (h : Blank cs) : ∀ c ∈ cs, InLowerCase c := by
  intro c hc
  have hcase := (blank_case c.toNat (toNat_mem_blankCodes (h c hc))).1
  rwa [Char.ofNat_toNat] at hcase

/-- White space behind a text ends the word that is looked for. -/
theorem startsCased_append_blank (cs : List Char) {bs : List Char} (h : Blank bs) :
    startsCased (cs ++ bs) = startsCased cs := by
  rw [startsCased, startsCased, List.find?_append]
  cases cs.find? fun c => !inRanges caseIgnorableRanges c.toNat with
  | some c => rfl
  | none =>
    cases bs with
    | nil => rfl
    | cons b bs =>
      have hb := toNat_mem_blankCodes (h b List.mem_cons_self)
      obtain ⟨-, hskip, hcased⟩ := blank_case b.toNat hb
      simp [hskip, hcased]

theorem lowerFrom_append_blank : ∀ (cs before : List Char) {post : List Char}, Blank post →
    lowerFrom before (cs ++ post) = lowerFrom before cs ++ post
  | [], before, post, h => lowerFrom_of_inLowerCase before h.inLowerCase
  | c :: cs, before, post, h => by
    rw [List.cons_append, lowerFrom, lowerFrom, lowerSigma, lowerSigma,
      startsCased_append_blank cs h, lowerFrom_append_blank cs (c :: before) h, List.append_assoc]

theorem lowerFrom_behind_blank : ∀ (cs before : List Char) {pre : List Char}, Blank pre →
    lowerFrom (before ++ pre) cs = lowerFrom before cs
  | [], _, _, _ => rfl
  | c :: cs, before, pre, h => by
    have hcs := lowerFrom_behind_blank cs (c :: before) h
    rw [List.cons_append] at hcs
    rw [lowerFrom, lowerFrom, lowerSigma, lowerSigma, startsCased_append_blank before h, hcs]

/-- Lowering keeps the white space around a text and reads nothing else into the text. -/
theorem lowerFrom_surround {pre post : List Char} (hpre : Blank pre) (cs : List Char)
    (hpost : Blank post) :
    lowerFrom [] (pre ++ (cs ++ post)) = pre ++ (lowerFrom [] cs ++ post) := by
  have hbehind : Blank pre.reverse := fun c hc => hpre c (List.mem_reverse.1 hc)
  rw [lowerFrom_append_of_inLowerCase pre [] (cs ++ post) hpre.inLowerCase,
    lowerFrom_append_blank cs _ hpost, List.append_nil, ← List.nil_append pre.reverse,
    lowerFrom_behind_blank cs [] hbehind]

/-- What a character becomes in a text is white space only if the character is. -/
theorem isBlank_of_mem_lowered {c d : Char} {before after : List Char}
    (h : d ∈ if c = 'Σ' then [lowerSigma before after] else lowerChar c)
    (hd : isBlank d = true) : isBlank c = true := by
  split at h
  · rw [List.mem_singleton.1 h, lowerSigma] at hd
    split at hd
    · exact absurd hd (by decide)
    · exact absurd hd (by decide)
  · exact isBlank_of_mem_lowerChar h hd

theorem lowered_ne_nil (c : Char) (before after : List Char) :
    (if c = 'Σ' then [lowerSigma before after] else lowerChar c) ≠ [] := by
  unfold lowerChar
  split_ifs <;> exact List.cons_ne_nil _ _

theorem isBlank_of_mem_head?_lowerFrom {d : Char} {cs before : List Char}
    (hcs : ∀ c ∈ cs.head?, isBlank c = false) (h : d ∈ (lowerFrom before cs).head?) :
    isBlank d = false := by
  cases cs with
  | nil => exact nomatch h
  | cons c cs =>
    rw [lowerFrom, List.head?_append_of_ne_nil _ (lowered_ne_nil c before cs)] at h
    rw [Bool.eq_false_iff]
    intro hd
    exact Bool.eq_false_iff.1 (hcs c rfl) (isBlank_of_mem_lowered (List.mem_of_head? h) hd)

theorem isBlank_of_mem_getLast?_lowerFrom {d : Char} : ∀ {cs before : List Char},
    (∀ c ∈ cs.getLast?, isBlank c = false) → d ∈ (lowerFrom before cs).getLast? →
      isBlank d = false
  | [], _, _, h => nomatch h
  | [c], before, hcs, h => by
    rw [lowerFrom, lowerFrom, List.append_nil] at h
    rw [Bool.eq_false_iff]
    intro hd
    exact Bool.eq_false_iff.1 (hcs c rfl) (isBlank_of_mem_lowered (List.mem_of_getLast? h) hd)
  | c :: c' :: cs, before, hcs, h => by
    have hne : lowerFrom (c :: before) (c' :: cs) ≠ [] := by
      rw [lowerFrom]
      exact List.append_ne_nil_of_left_ne_nil (lowered_ne_nil c' _ cs) _
    rw [lowerFrom, List.getLast?_append_of_ne_nil _ hne] at h
    rw [List.getLast?_cons_cons] at hcs
    exact isBlank_of_mem_getLast?_lowerFrom hcs h

/-- A trimmed text is trimmed in lower case. -/
theorem trim_lower_of_trimmed {s : String} (h : Trimmed s.toList) :
    trim (lower s) = lower s := by
  refine trim_of_trimmed ?_
  rw [lower, String.toList_ofList]
  exact ⟨fun d hd => isBlank_of_mem_head?_lowerFrom h.1 hd,
    fun d hd => isBlank_of_mem_getLast?_lowerFrom h.2 hd⟩

/-- A text in lower case holds the trimmed text in lower case. -/
theorem lower_trim_infix (s : String) : (lower (trim s)).toList <:+: (lower s).toList := by
  obtain ⟨pre, post, hpre, -, hpost, heq⟩ := exists_trimChars s.toList
  have hlower : lowerFrom [] s.toList = pre ++ (lowerFrom [] (trimChars s.toList) ++ post) := by
    rw [← lowerFrom_surround hpre _ hpost, ← heq]
  rw [lower, lower, String.toList_ofList, String.toList_ofList, toList_trim, hlower]
  exact ⟨pre, post, List.append_assoc pre _ post⟩

end ScanQuery.Text
