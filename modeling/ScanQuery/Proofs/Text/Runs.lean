import Mathlib
import ScanQuery.Text.Blank

/-!
Runs of characters of one kind. A run at the start of a text ends where another kind of character
comes up, and what stands behind that character has no say in it; a run at the end of a text reaches
back to such a character.
-/

namespace ScanQuery.Text

variable {p : Char → Bool} {c d : Char} {cs run rest : List Char}

theorem bne_of_not_mem (h : d ∉ cs) : ∀ c ∈ cs, (c != d) = true := by
  intro c hc
  rw [bne_iff_ne]
  rintro rfl
  exact h hc

/-! ### At the start -/

theorem takeWhile_of_head (h : ∀ c ∈ cs.head?, p c = false) : cs.takeWhile p = [] := by
  cases cs with
  | nil => rfl
  | cons c cs => exact List.takeWhile_cons_of_neg (by simp [h c rfl])

/-- A run ends where a text begins with a character of another kind. -/
theorem takeWhile_append_of_head (hrun : ∀ c ∈ run, p c = true)
    (hrest : ∀ c ∈ rest.head?, p c = false) : (run ++ rest).takeWhile p = run := by
  rw [List.takeWhile_append_of_pos hrun, takeWhile_of_head hrest, List.append_nil]

theorem dropWhile_append_of_head (hrun : ∀ c ∈ run, p c = true)
    (hrest : ∀ c ∈ rest.head?, p c = false) : (run ++ rest).dropWhile p = rest := by
  rw [List.dropWhile_append_of_pos hrun]
  cases rest with
  | nil => rfl
  | cons c rest => exact List.dropWhile_cons_of_neg (by simp [hrest c rfl])

/-- A run that ends within a text ends there, whatever follows the text. -/
theorem takeWhile_append_of_mem (hd : d ∈ cs) (hp : p d = false) (rest : List Char) :
    (cs ++ rest).takeWhile p = cs.takeWhile p := by
  induction cs with
  | nil => exact absurd hd List.not_mem_nil
  | cons c cs ih =>
    by_cases hc : p c = true
    · have hcd : d ≠ c := by
        rintro rfl
        exact Bool.false_ne_true (hp.symm.trans hc)
      rw [List.cons_append, List.takeWhile_cons_of_pos hc, List.takeWhile_cons_of_pos hc,
        ih ((List.mem_cons.1 hd).resolve_left hcd)]
    · rw [List.cons_append, List.takeWhile_cons_of_neg hc, List.takeWhile_cons_of_neg hc]

theorem dropWhile_append_of_mem (hd : d ∈ cs) (hp : p d = false) (rest : List Char) :
    (cs ++ rest).dropWhile p = cs.dropWhile p ++ rest := by
  have hne : (cs.dropWhile p).isEmpty = false := by
    rw [← Bool.not_eq_true, List.isEmpty_iff, List.dropWhile_eq_nil_iff]
    intro hall
    exact Bool.false_ne_true (hp.symm.trans (hall d hd))
  rw [List.dropWhile_append, hne, if_neg Bool.false_ne_true]

theorem not_of_mem_head?_dropWhile (h : c ∈ (cs.dropWhile p).head?) : p c = false := by
  have hnot := List.head?_dropWhile_not p cs
  rw [Option.mem_def.1 h] at hnot
  exact hnot

/-! ### At the end -/

theorem dropEndWhile_cons_of_mem (hd : d ∈ cs) (hp : p d = false) :
    dropEndWhile p (c :: cs) = c :: dropEndWhile p cs := by
  rw [dropEndWhile, dropEndWhile, List.reverse_cons,
    dropWhile_append_of_mem (List.mem_reverse.2 hd) hp, List.reverse_append,
    List.reverse_singleton, List.singleton_append]

theorem dropEndWhile_cons_of_all (c : Char) (h : ∀ d ∈ cs, p d = true) :
    dropEndWhile p (c :: cs) = if p c then [] else [c] := by
  rw [dropEndWhile, List.reverse_cons,
    List.dropWhile_append_of_pos fun d hd => h d (List.mem_reverse.1 hd)]
  cases hc : p c <;> simp [hc]

/-- A text without a character of the kind at its end stays whole in front of a run. -/
theorem dropEndWhile_append (hcs : ∀ c ∈ cs.getLast?, p c = false) (hrun : ∀ c ∈ run, p c = true) :
    dropEndWhile p (cs ++ run) = cs := by
  have hrev : ∀ c ∈ cs.reverse.head?, p c = false := by
    rw [List.head?_reverse]
    exact hcs
  rw [dropEndWhile, List.reverse_append,
    dropWhile_append_of_head (fun c hc => hrun c (List.mem_reverse.1 hc)) hrev,
    List.reverse_reverse]

/-- Dropping what is not the mark leaves the text up to its last mark. -/
theorem exists_dropEndWhile_of_mark (h : d ∈ cs) :
    ∃ init post, cs = init ++ d :: post ∧ dropEndWhile (· != d) cs = init ++ [d] := by
  obtain ⟨post, init, hrev, hpost⟩ := List.eq_append_cons_of_mem (List.mem_reverse.2 h)
  have hcs : cs = init.reverse ++ [d] ++ post.reverse := by
    rw [← List.reverse_reverse cs, hrev]
    simp
  refine ⟨init.reverse, post.reverse, by rw [hcs]; simp, ?_⟩
  rw [hcs]
  refine dropEndWhile_append (fun c hc => ?_) fun c hc => ?_
  · obtain rfl : d = c := by simpa using hc
    simp
  · exact bne_of_not_mem hpost c (List.mem_reverse.1 hc)

end ScanQuery.Text
