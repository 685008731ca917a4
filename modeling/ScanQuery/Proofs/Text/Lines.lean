import ScanQuery.Proofs.Text.Split
import ScanQuery.Text.Blank

/-!
Lines. A text is cut into lines at its line feeds, so a text that ends with one keeps its lines
whatever follows it, and what follows is cut as on its own. Without a carriage return the lines of
such a text, each ended again, make up the text. Taking the line feeds off the end of a text and
putting one there makes one of however many there were.
-/

namespace ScanQuery.Text

/-- A text whose last line is ended, if it has any. -/
def Ended (s : String) : Prop :=
  s = "" ∨ ∃ front, s = front ++ "\n"

/-! ### Cutting into lines -/

theorem lineChars_of_cutAt? {cs line rest : List Char} (h : cutAt? ['\n'] cs = some (line, rest)) :
    lineChars cs = dropCarriageReturn line :: lineChars rest := by
  rw [lineChars]
  split
  · next hnone => exact absurd (h.symm.trans hnone) (Option.some_ne_none _)
  · next line' rest' hsome =>
    obtain ⟨rfl, rfl⟩ : line' = line ∧ rest' = rest := by simpa using hsome.symm.trans h
    rfl

theorem lineChars_of_not_mem {cs : List Char} (h : '\n' ∉ cs) :
    lineChars cs = if cs.isEmpty then [] else [cs] := by
  have hcut : cutAt? ['\n'] cs = none :=
    (cutAt?_eq_none_iff (List.cons_ne_nil '\n' [])).2 fun hfeed =>
      h (hfeed.subset (List.mem_singleton_self '\n'))
  rw [lineChars]
  split
  · rfl
  · next line rest hsome => exact absurd (hsome.symm.trans hcut) (Option.some_ne_none _)

/-- Lines that are each ended by a line feed are cut where they were joined. -/
theorem lineChars_flatMap {ls : List (List Char)} (h : ∀ l ∈ ls, '\n' ∉ l) (rest : List Char) :
    lineChars (ls.flatMap (· ++ ['\n']) ++ rest) = ls.map dropCarriageReturn ++ lineChars rest := by
  induction ls with
  | nil => rfl
  | cons l ls ih =>
    have hclear : Clear ['\n'] l := clear_of_not_mem (h l List.mem_cons_self)
    have hcut := cutAt?_of_clear (List.cons_ne_nil '\n' []) hclear
      (ls.flatMap (· ++ ['\n']) ++ rest)
    rw [List.flatMap_cons, List.append_assoc, List.append_assoc, lineChars_of_cutAt? hcut,
      ih fun l' hl' => h l' (List.mem_cons_of_mem l hl'), List.map_cons, List.cons_append]

/-- Every text is made of lines that are ended and of what follows the last line feed. -/
theorem exists_lines (cs : List Char) : ∃ (ls : List (List Char)) (tail : List Char),
    (∀ l ∈ ls, '\n' ∉ l) ∧ '\n' ∉ tail ∧ cs = ls.flatMap (· ++ ['\n']) ++ tail := by
  induction cs with
  | nil => exact ⟨[], [], by simp, by simp, rfl⟩
  | cons c cs ih =>
    obtain ⟨ls, tail, hls, htail, rfl⟩ := ih
    by_cases hc : c = '\n'
    · subst hc
      exact ⟨[] :: ls, tail, List.forall_mem_cons.2 ⟨by simp, hls⟩, htail, rfl⟩
    -- any other character begins the first line, or the tail when there is none
    · cases ls with
      | nil => exact ⟨[], c :: tail, hls, by simpa [eq_comm] using ⟨hc, htail⟩, rfl⟩
      | cons l ls =>
        obtain ⟨hl, hrest⟩ := List.forall_mem_cons.1 hls
        have hline : '\n' ∉ c :: l := by simpa [eq_comm] using ⟨hc, hl⟩
        exact ⟨(c :: l) :: ls, tail, List.forall_mem_cons.2 ⟨hline, hrest⟩, htail, rfl⟩

/-- Cut at line feeds, a text gives its lines and what follows them. -/
theorem splitChars_lines {ls : List (List Char)} {tail : List Char} (h : ∀ l ∈ ls, '\n' ∉ l)
    (htail : '\n' ∉ tail) :
    splitChars ['\n'] (ls.flatMap (· ++ ['\n']) ++ tail) = ls ++ [tail] := by
  induction ls with
  | nil =>
    have hno : ¬ ['\n'] <:+: tail := fun hin => htail (hin.subset (List.mem_singleton_self '\n'))
    exact splitChars_of_no_match (List.cons_ne_nil '\n' []) hno
  | cons l ls ih =>
    have hcut := cutAt?_of_clear (List.cons_ne_nil '\n' [])
      (clear_of_not_mem (h l List.mem_cons_self)) (ls.flatMap (· ++ ['\n']) ++ tail)
    rw [List.flatMap_cons, List.append_assoc, List.append_assoc,
      splitChars_of_cutAt? (List.cons_ne_nil '\n' []) hcut,
      ih fun l' hl' => h l' (List.mem_cons_of_mem l hl'), List.cons_append]

/-- In an ended text nothing follows the last line feed. -/
theorem Ended.exists_lines {s : String} (h : Ended s) :
    ∃ ls : List (List Char), (∀ l ∈ ls, '\n' ∉ l) ∧ s.toList = ls.flatMap (· ++ ['\n']) := by
  rcases h with rfl | ⟨front, rfl⟩
  · exact ⟨[], by simp, rfl⟩
  · obtain ⟨ls, tail, hls, htail, hfront⟩ := Text.exists_lines front.toList
    refine ⟨ls ++ [tail], List.forall_mem_append.2 ⟨hls, by simpa using htail⟩, ?_⟩
    rw [String.toList_append, hfront]
    simp

theorem lineChars_nil : lineChars [] = [] :=
  lineChars_of_not_mem List.not_mem_nil

/-- The lines of lines that are ended are these lines. -/
theorem lineChars_ended {ls : List (List Char)} (h : ∀ l ∈ ls, '\n' ∉ l) :
    lineChars (ls.flatMap (· ++ ['\n'])) = ls.map dropCarriageReturn := by
  have hcut := lineChars_flatMap h []
  rwa [List.append_nil, lineChars_nil, List.append_nil] at hcut

/-- A text that ends with a line feed is cut as on its own, and so is what follows it. -/
theorem lines_append {s : String} (h : Ended s) (t : String) :
    lines (s ++ t) = lines s ++ lines t := by
  obtain ⟨ls, hls, hs⟩ := h.exists_lines
  rw [lines, lines, lines, String.toList_append, hs, lineChars_flatMap hls, lineChars_ended hls,
    List.map_append]

theorem Ended.append {s t : String} (hs : Ended s) (ht : Ended t) : Ended (s ++ t) := by
  rcases ht with rfl | ⟨front, rfl⟩
  · rwa [String.append_empty]
  · exact .inr ⟨s ++ front, (String.append_assoc ..).symm⟩

theorem lines_empty : lines "" = [] :=
  congrArg (List.map String.ofList) lineChars_nil

/-- A text without a line feed is a line. -/
theorem lines_eq_singleton {s : String} (hs : s ≠ "") (h : '\n' ∉ s.toList) : lines s = [s] := by
  have hchars : ¬ s.toList.isEmpty = true := by simpa using hs
  rw [lines, lineChars_of_not_mem h, if_neg hchars, List.map_singleton, String.ofList_toList]

/-- No line has a line feed in it. -/
theorem feed_not_mem_of_mem_lines {s line : String} (h : line ∈ lines s) : '\n' ∉ line.toList := by
  obtain ⟨cs, hcs, rfl⟩ := List.mem_map.1 h
  obtain ⟨ls, tail, hls, htail, hs⟩ := exists_lines s.toList
  rw [hs, lineChars_flatMap hls, lineChars_of_not_mem htail, List.mem_append] at hcs
  rw [String.toList_ofList]
  rcases hcs with hcs | hcs
  · obtain ⟨l, hl, rfl⟩ := List.mem_map.1 hcs
    rw [dropCarriageReturn]
    split
    · exact fun hfeed => hls l hl (List.mem_of_mem_dropLast hfeed)
    · exact hls l hl
  · split at hcs
    · exact absurd hcs List.not_mem_nil
    · rwa [List.mem_singleton.1 hcs]

/-! ### Texts without carriage returns -/

theorem dropCarriageReturn_of_not_mem {line : List Char} (h : '\r' ∉ line) :
    dropCarriageReturn line = line :=
  if_neg fun hlast => h (List.mem_of_getLast? hlast)

/-- A line that is ended is a line. -/
theorem lines_ended {line : String} (hfeed : '\n' ∉ line.toList) (hreturn : '\r' ∉ line.toList) :
    lines (line ++ "\n") = [line] := by
  have hline : ∀ l ∈ [line.toList], '\n' ∉ l := by simpa using hfeed
  have hcut := lineChars_ended hline
  have hchars : (line ++ "\n").toList = line.toList ++ ['\n'] := String.toList_append
  rw [List.flatMap_singleton, List.map_singleton, dropCarriageReturn_of_not_mem hreturn] at hcut
  rw [lines, hchars, hcut, List.map_singleton, String.ofList_toList]

/-- An ended text is its lines, each ended. -/
theorem join_lines {s : String} (h : Ended s) (hreturn : '\r' ∉ s.toList) :
    String.join ((lines s).map (· ++ "\n")) = s := by
  obtain ⟨ls, hls, hs⟩ := h.exists_lines
  have hkept : ls.map dropCarriageReturn = ls := by
    refine (List.map_congr_left fun l hl => dropCarriageReturn_of_not_mem fun hmem => ?_).trans
      (List.map_id ls)
    rw [hs] at hreturn
    exact hreturn (List.mem_flatMap.2 ⟨l, hl, List.mem_append_left _ hmem⟩)
  rw [← String.toList_inj, String.toList_join, lines, hs, lineChars_ended hls, hkept]
  simp [List.flatMap_map]

/-! ### Line feeds at the end -/

/-- Line feeds alone are taken off, and none is left at the end. -/
theorem exists_dropFinalNewlines (s : String) :
    ∃ n, s.toList = (dropFinalNewlines s).toList ++ List.replicate n '\n' ∧
      (dropFinalNewlines s).toList.getLast? ≠ some '\n' := by
  have hfeeds : s.toList.reverse.takeWhile (· == '\n') =
      List.replicate (s.toList.reverse.takeWhile (· == '\n')).length '\n' := by
    refine List.eq_replicate_of_mem fun c hc => ?_
    simpa using List.mem_takeWhile_imp hc
  refine ⟨(s.toList.reverse.takeWhile (· == '\n')).length, ?_, ?_⟩
  · have hsplit := congrArg List.reverse
      (List.takeWhile_append_dropWhile (p := (· == '\n')) (l := s.toList.reverse))
    rw [List.reverse_append, List.reverse_reverse, hfeeds, List.reverse_replicate] at hsplit
    rw [dropFinalNewlines, String.toList_ofList, dropEndWhile]
    exact hsplit.symm
  · rw [dropFinalNewlines, String.toList_ofList, dropEndWhile, List.getLast?_reverse]
    intro hlast
    have hnot := List.head?_dropWhile_not (· == '\n') s.toList.reverse
    rw [hlast] at hnot
    simp at hnot

theorem dropFinalNewlines_of_getLast? {s : String} (h : s.toList.getLast? ≠ some '\n') :
    dropFinalNewlines s = s := by
  obtain ⟨n, heq, -⟩ := exists_dropFinalNewlines s
  cases n with
  | zero =>
    rw [List.replicate_zero, List.append_nil] at heq
    exact (String.toList_inj.1 heq).symm
  | succ n =>
    rw [List.replicate_succ', ← List.append_assoc] at heq
    exact absurd (heq ▸ List.getLast?_concat) h

end ScanQuery.Text
