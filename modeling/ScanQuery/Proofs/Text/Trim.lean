import Mathlib
import ScanQuery.Text.Blank

/-!
Trimming. A text is white space, a core that neither begins nor ends with white space, and white
space again, and trimming finds the core. So trimming twice is trimming once, and white space put
at either end of a text makes no difference to it.
-/

namespace ScanQuery.Text

/-- White space only. -/
def Blank (cs : List Char) : Prop :=
  ∀ c ∈ cs, isBlank c = true

/-- Without white space at either end. -/
def Trimmed (cs : List Char) : Prop :=
  (∀ c ∈ cs.head?, isBlank c = false) ∧ ∀ c ∈ cs.getLast?, isBlank c = false

theorem Blank.append {cs ds : List Char} (hcs : Blank cs) (hds : Blank ds) : Blank (cs ++ ds) :=
  fun c hc => (List.mem_append.1 hc).elim (hcs c) (hds c)

theorem blank_nil : Blank [] :=
  fun _ hc => nomatch hc

theorem blank_replicate (n : Nat) : Blank (List.replicate n ' ') := by
  intro c hc
  rw [List.eq_of_mem_replicate hc]
  rfl

/-- No white space lies between the space and the end of the ASCII characters. -/
theorem isBlank_of_visible {d : Char} (h : 0x20 < d.toNat ∧ d.toNat < 0x80) :
    isBlank d = false := by
  simp only [isBlank, Bool.or_eq_false_iff, Bool.and_eq_false_iff, decide_eq_false_iff_not,
    beq_eq_false_iff_ne]
  omega

theorem isBlank_of_isAlpha {d : Char} (h : d.isAlpha = true) : isBlank d = false := by
  have hrange : (65 ≤ d.toNat ∧ d.toNat ≤ 90) ∨ (97 ≤ d.toNat ∧ d.toNat ≤ 122) := by
    simpa [Char.isAlpha, Char.isUpper, Char.isLower, UInt32.le_iff_toNat_le] using h
  exact isBlank_of_visible (by omega)

theorem isBlank_of_isDigit {d : Char} (h : d.isDigit = true) : isBlank d = false := by
  have hrange : 48 ≤ d.toNat ∧ d.toNat ≤ 57 := by
    simpa [Char.isDigit, UInt32.le_iff_toNat_le] using h
  exact isBlank_of_visible (by omega)

theorem trimmed_of_forall {cs : List Char} (h : ∀ c ∈ cs, isBlank c = false) : Trimmed cs :=
  ⟨fun c hc => h c (List.mem_of_head? hc), fun c hc => h c (List.mem_of_getLast? hc)⟩

theorem dropWhile_of_head {cs : List Char} (h : ∀ c ∈ cs.head?, isBlank c = false) :
    cs.dropWhile isBlank = cs := by
  cases cs with
  | nil => rfl
  | cons c cs => exact List.dropWhile_cons_of_neg (by simp [h c rfl])

/-- Dropping white space from the front takes off blanks and stops at another character. -/
theorem exists_dropWhile (cs : List Char) :
    ∃ pre, Blank pre ∧ cs = pre ++ cs.dropWhile isBlank ∧
      ∀ c ∈ (cs.dropWhile isBlank).head?, isBlank c = false := by
  refine ⟨cs.takeWhile isBlank, fun c hc => List.mem_takeWhile_imp hc,
    List.takeWhile_append_dropWhile.symm, fun c hc => ?_⟩
  have hnot := List.head?_dropWhile_not isBlank cs
  rw [Option.mem_def.1 hc] at hnot
  simpa using hnot

/-- Trimming finds the core of a text. -/
theorem trimChars_eq {pre core post : List Char} (hpre : Blank pre) (hcore : Trimmed core)
    (hpost : Blank post) : trimChars (pre ++ (core ++ post)) = core := by
  have hpostRev : ∀ c ∈ post.reverse, isBlank c := fun c hc => hpost c (List.mem_reverse.1 hc)
  rw [trimChars, stripWhile, List.dropWhile_append_of_pos hpre]
  rcases List.eq_nil_or_concat core with rfl | ⟨init, last, hconcat⟩
  · have hdrop : post.dropWhile isBlank = [] := List.dropWhile_eq_nil_iff.2 hpost
    rw [List.nil_append, hdrop]
    rfl
  · have hhead : ∀ c ∈ (core ++ post).head?, isBlank c = false := by
      rw [hconcat] at hcore ⊢
      cases init <;> exact hcore.1
    have hlast : ∀ c ∈ core.reverse.head?, isBlank c = false := by
      rw [List.head?_reverse]
      exact hcore.2
    rw [dropWhile_of_head hhead, dropEndWhile, List.reverse_append,
      List.dropWhile_append_of_pos hpostRev, dropWhile_of_head hlast, List.reverse_reverse]

/-- Every text is white space, its trimmed core and white space. -/
theorem exists_trimChars (cs : List Char) :
    ∃ pre post, Blank pre ∧ Trimmed (trimChars cs) ∧ Blank post ∧
      cs = pre ++ (trimChars cs ++ post) := by
  obtain ⟨pre, hpre, hcs, hhead⟩ := exists_dropWhile cs
  obtain ⟨post, hpost, hmid, hlast⟩ := exists_dropWhile (cs.dropWhile isBlank).reverse
  have hmid' : cs.dropWhile isBlank = trimChars cs ++ post.reverse := by
    have hrev := congrArg List.reverse hmid
    rwa [List.reverse_reverse, List.reverse_append] at hrev
  refine ⟨pre, post.reverse, hpre, ⟨fun c hc => ?_, fun c hc => ?_⟩,
    fun c hc => hpost c (List.mem_reverse.1 hc), hmid' ▸ hcs⟩
  · rw [hmid', List.head?_append, Option.mem_def.1 hc] at hhead
    exact hhead c rfl
  · rw [trimChars, stripWhile, dropEndWhile, List.getLast?_reverse] at hc
    exact hlast c hc

theorem trimmed_trimChars (cs : List Char) : Trimmed (trimChars cs) := by
  obtain ⟨_, _, -, htrimmed, -, -⟩ := exists_trimChars cs
  exact htrimmed

theorem trimChars_of_trimmed {cs : List Char} (h : Trimmed cs) : trimChars cs = cs := by
  simpa using trimChars_eq blank_nil h blank_nil

theorem trim_of_trimmed {s : String} (h : Trimmed s.toList) : trim s = s := by
  rw [trim, trimChars_of_trimmed h, String.ofList_toList]

theorem trimChars_trimChars (cs : List Char) : trimChars (trimChars cs) = trimChars cs :=
  trimChars_of_trimmed (trimmed_trimChars cs)

/-- White space around a text does not change what trimming leaves. -/
theorem trimChars_append_blank {pre post : List Char} (hpre : Blank pre) (cs : List Char)
    (hpost : Blank post) : trimChars (pre ++ (cs ++ post)) = trimChars cs := by
  obtain ⟨pre', post', hpre', htrimmed, hpost', hcs⟩ := exists_trimChars cs
  have heq : pre ++ (cs ++ post) = (pre ++ pre') ++ (trimChars cs ++ (post' ++ post)) :=
    calc pre ++ (cs ++ post) = pre ++ ((pre' ++ (trimChars cs ++ post')) ++ post) := by rw [← hcs]
      _ = (pre ++ pre') ++ (trimChars cs ++ (post' ++ post)) := by simp only [List.append_assoc]
  rw [heq, trimChars_eq (hpre.append hpre') htrimmed (hpost'.append hpost)]

theorem trimChars_blank_append {pre : List Char} (hpre : Blank pre) (cs : List Char) :
    trimChars (pre ++ cs) = trimChars cs := by
  simpa using trimChars_append_blank hpre cs blank_nil

theorem trimChars_append_of_blank {post : List Char} (cs : List Char) (hpost : Blank post) :
    trimChars (cs ++ post) = trimChars cs := by
  simpa using trimChars_append_blank blank_nil cs hpost

/-- A text that does not begin with white space loses its end only. -/
theorem trimChars_prefix {cs : List Char} (h : ∀ c ∈ cs.head?, isBlank c = false) :
    trimChars cs <+: cs := by
  obtain ⟨pre, post, hpre, -, -, heq⟩ := exists_trimChars cs
  cases pre with
  | nil => exact ⟨post, heq.symm⟩
  | cons c pre =>
    have hhead : isBlank c = false := h c (heq ▸ rfl)
    exact absurd (hpre c List.mem_cons_self) (by simp [hhead])

/-- Trimming keeps what is not white space. -/
theorem mem_trimChars {cs : List Char} {c : Char} (hc : c ∈ cs) (h : isBlank c = false) :
    c ∈ trimChars cs := by
  obtain ⟨pre, post, hpre, -, hpost, heq⟩ := exists_trimChars cs
  rw [heq, List.mem_append, List.mem_append] at hc
  rcases hc with hc | hc | hc
  · exact absurd (hpre c hc) (by simp [h])
  · exact hc
  · exact absurd (hpost c hc) (by simp [h])

theorem mem_of_mem_trimChars {cs : List Char} {c : Char} (hc : c ∈ trimChars cs) : c ∈ cs := by
  obtain ⟨pre, post, -, -, -, heq⟩ := exists_trimChars cs
  rw [heq]
  exact List.mem_append_right pre (List.mem_append_left post hc)

theorem trimChars_ne_nil {cs : List Char} {c : Char} (hc : c ∈ cs) (h : isBlank c = false) :
    trimChars cs ≠ [] :=
  List.ne_nil_of_mem (mem_trimChars hc h)

/-- Trimming leaves nothing of white space, and of nothing else. -/
theorem trimChars_eq_nil_iff {cs : List Char} : trimChars cs = [] ↔ Blank cs := by
  constructor
  · intro hnil
    obtain ⟨pre, post, hpre, -, hpost, heq⟩ := exists_trimChars cs
    rw [hnil, List.nil_append] at heq
    exact heq ▸ hpre.append hpost
  · intro hblank
    exact trimChars_append_of_blank [] hblank

theorem isBlankText_iff {s : String} : isBlankText s = true ↔ trim s = "" := by
  rw [trim, String.ofList_eq_empty_iff, trimChars_eq_nil_iff, isBlankText, List.all_eq_true]
  rfl

/-- Behind a front that does not begin with white space, a text is trimmed at its end only. -/
theorem trimChars_append {front cs : List Char} (hfront : front ≠ [])
    (hshown : ∀ c ∈ front.head?, isBlank c = false) (hcs : trimChars cs ≠ []) :
    ∃ rest, trimChars (front ++ cs) = front ++ rest ∧ trimChars rest = trimChars cs := by
  obtain ⟨pre, post, hpre, hcore, hpost, heq⟩ := exists_trimChars cs
  have hlast : (front ++ (pre ++ trimChars cs)).getLast? = (trimChars cs).getLast? := by
    rw [← List.append_assoc, List.getLast?_append, List.getLast?_eq_some_getLast hcs]
    rfl
  have hhead : (front ++ (pre ++ trimChars cs)).head? = front.head? := by
    rw [List.head?_append, List.head?_eq_some_head hfront]
    rfl
  have hbody : Trimmed (front ++ (pre ++ trimChars cs)) := by
    refine ⟨?_, ?_⟩
    · rw [hhead]
      exact hshown
    · rw [hlast]
      exact hcore.2
  refine ⟨pre ++ trimChars cs, ?_, ?_⟩
  · have hassoc : front ++ cs = [] ++ ((front ++ (pre ++ trimChars cs)) ++ post) :=
      calc front ++ cs = front ++ (pre ++ (trimChars cs ++ post)) := by rw [← heq]
        _ = [] ++ ((front ++ (pre ++ trimChars cs)) ++ post) := by
          simp only [List.nil_append, List.append_assoc]
    rw [hassoc, trimChars_eq blank_nil hbody hpost]
  · rw [trimChars_blank_append hpre, trimChars_trimChars]

end ScanQuery.Text
