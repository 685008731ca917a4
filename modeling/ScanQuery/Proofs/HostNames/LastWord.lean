import ScanQuery.Proofs.HostNames.Reading
import ScanQuery.Proofs.Text.Lines

/-!
Names from name resolution. What is found is the last word of the first line that ends in a word. It
is the last word of the output as long as no line in front of that word ends in a word and nothing
but white space follows it, on lines of its own. A line that ends in white space, a carriage return
among it, is passed over, and a line in front that ends in a word hides the last word of the output.
-/

namespace ScanQuery.HostName

/-- Whether a line ends in a word. -/
def endsInWord (line : List Char) : Bool :=
  line.getLast?.any (!Text.isBlank ·)

/-- The last word of a text, empty when there is none. -/
def lastWord (cs : List Char) : List Char :=
  (Text.dropEndWhile Text.isBlank cs).rtakeWhile (!Text.isBlank ·)

/-- The last word of a text without one dot at its end, unless it is missing or nothing but the
dot. -/
def lastName? (cs : List Char) : Option String :=
  if lastWord cs = [] ∨ lastWord cs = ['.'] then none
  else some (String.ofList (dropFinalDot (lastWord cs)))

/-! ### The last word -/

section Words

variable {front w rest : List Char}

/-- The last word is what stands between white space and white space at the end. -/
theorem lastWord_append (hfront : ∀ c ∈ front.getLast?, Text.isBlank c = true)
    (hw : ∀ c ∈ w, Text.isBlank c = false) (hne : w ≠ []) {post : List Char}
    (hpost : Text.Blank post) : lastWord (front ++ w ++ post) = w := by
  have hlast : ∀ c ∈ (front ++ w).getLast?, Text.isBlank c = false := by
    intro c hc
    rw [List.getLast?_append_of_ne_nil front hne] at hc
    exact hw c (List.mem_of_getLast? hc)
  have hrev : ∀ c ∈ front.reverse.head?, (!Text.isBlank c) = false := by
    intro c hc
    rw [List.head?_reverse] at hc
    rw [hfront c hc]
    rfl
  have hwrev : ∀ c ∈ w.reverse, (!Text.isBlank c) = true := by
    intro c hc
    rw [hw c (List.mem_reverse.1 hc)]
    rfl
  rw [lastWord, Text.dropEndWhile_append hlast hpost, List.rtakeWhile, List.reverse_append,
    Text.takeWhile_append_of_head hwrev hrev, List.reverse_reverse]

theorem exists_of_endsInWord {line : List Char} (h : endsInWord line = true) :
    ∃ c, line.getLast? = some c ∧ Text.isBlank c = false := by
  cases hlast : line.getLast? with
  | none => simp [endsInWord, hlast] at h
  | some c => exact ⟨c, rfl, by simpa [endsInWord, hlast] using h⟩

theorem isBlank_of_not_endsInWord {line : List Char} (h : endsInWord line = false) :
    ∀ c ∈ line.getLast?, Text.isBlank c = true := by
  intro c hc
  rw [endsInWord, Option.mem_def.1 hc] at h
  simpa using h

/-- A line that ends in a word is that word behind a front that ends in white space, if in
anything. -/
theorem exists_front_of_endsInWord {line : List Char} (h : endsInWord line = true) :
    ∃ front, line = front ++ lastWord line ∧ (∀ c ∈ front.getLast?, Text.isBlank c = true) ∧
      lastWord line ≠ [] := by
  obtain ⟨c, hc, hshown⟩ := exists_of_endsInWord h
  obtain ⟨hline, rfl⟩ := List.mem_getLast?_eq_getLast hc
  have hfront : ∀ c ∈ (line.rdropWhile (!Text.isBlank ·)).getLast?, Text.isBlank c = true := by
    intro c hc
    rw [List.rdropWhile, List.getLast?_reverse] at hc
    simpa using Text.not_of_mem_head?_dropWhile hc
  have hword : ∀ c ∈ line.rtakeWhile (!Text.isBlank ·), Text.isBlank c = false :=
    fun c hc => by simpa using List.mem_rtakeWhile_imp hc
  have hne : line.rtakeWhile (!Text.isBlank ·) ≠ [] :=
    fun hnil => List.rtakeWhile_eq_nil_iff.1 hnil hline (by simp [hshown])
  have hlast := lastWord_append hfront hword hne Text.blank_nil
  rw [List.append_nil, List.rdropWhile_append_rtakeWhile] at hlast
  rw [hlast]
  exact ⟨_, List.rdropWhile_append_rtakeWhile.symm, hfront, hne⟩

theorem isBlank_of_mem_lastWord {cs : List Char} {c : Char} (h : c ∈ lastWord cs) :
    Text.isBlank c = false := by
  simpa using List.mem_rtakeWhile_imp h

/-! ### Words at the end of a line -/

theorem lineEndWord?_of_word (hw : ∀ c ∈ w, Text.isBlank c = false) (hne : w ≠ [])
    (hrest : ∀ c ∈ rest.head?, c = '\n') : lineEndWord? (w ++ rest) = some w := by
  have hblank : ∀ c ∈ rest.head?, Text.isBlank c = true := by
    intro c hc
    rw [hrest c hc]
    decide
  rw [lineEndWord?, word_append hw hblank, afterWord_append hw hblank, if_neg (by simpa using hne)]
  cases rest with
  | nil => rfl
  | cons c rest => exact if_pos (hrest c rfl)

/-- No word of a text that ends in white space ends a line, unless a line feed stands in it. -/
theorem firstFit_lineEndWord?_append (hfront : ∀ c ∈ front.getLast?, Text.isBlank c = true)
    (hfeed : '\n' ∉ front) (rest : List Char) :
    firstFit lineEndWord? (front ++ rest) = firstFit lineEndWord? rest := by
  refine firstFit_append_of_none rest fun suffix hne hsuffix => ?_
  obtain ⟨d, hd⟩ := Option.isSome_iff_exists.1 (List.getLast?_isSome.2 hne)
  obtain ⟨init, rfl⟩ := hsuffix
  have hblank : Text.isBlank d = true :=
    hfront d (by rw [List.getLast?_append_of_ne_nil init hne]; exact hd)
  have hmem : d ∈ suffix := List.mem_of_getLast? hd
  rw [lineEndWord?, word_append_of_mem hmem hblank, afterWord_append_of_mem hmem hblank]
  cases hafter : afterWord suffix with
  | nil => exact absurd hafter (afterWord_ne_nil hmem hblank)
  | cons c after =>
    have hc : c ∈ suffix := mem_of_mem_afterWord (hafter ▸ List.mem_cons_self)
    have hfeed' : c ≠ '\n' := by
      rintro rfl
      exact hfeed (List.mem_append_right init hc)
    simp [hfeed']

/-- A line decides by its end: if it ends in a word, this word is found. -/
theorem firstFit_lineEndWord?_line {line : List Char} (hfeed : '\n' ∉ line) (rest : List Char)
    (hrest : ∀ c ∈ rest.head?, c = '\n') :
    firstFit lineEndWord? (line ++ rest) =
      if endsInWord line then some (lastWord line) else firstFit lineEndWord? rest := by
  split
  · next hends =>
    obtain ⟨front, hline, hfront, hne⟩ := exists_front_of_endsInWord hends
    have hfeed' : '\n' ∉ front := fun hmem => hfeed (hline ▸ List.mem_append_left _ hmem)
    calc firstFit lineEndWord? (line ++ rest)
        = firstFit lineEndWord? (front ++ (lastWord line ++ rest)) := by
          rw [← List.append_assoc, ← hline]
      _ = firstFit lineEndWord? (lastWord line ++ rest) :=
          firstFit_lineEndWord?_append hfront hfeed' _
      _ = some (lastWord line) :=
          firstFit_of_fit (lineEndWord?_of_word (fun c => isBlank_of_mem_lastWord) hne hrest)
  · next hends =>
    exact firstFit_lineEndWord?_append
      (isBlank_of_not_endsInWord (Bool.eq_false_of_not_eq_true hends)) hfeed rest

theorem firstFit_lineEndWord?_feed (rest : List Char) :
    firstFit lineEndWord? ('\n' :: rest) = firstFit lineEndWord? rest := by
  refine firstFit_cons_of_none ?_
  rw [lineEndWord?, word_cons_of_blank (by decide)]
  rfl

/-- The search finds the last word of the first line that ends in a word. -/
theorem firstFit_lineEndWord?_eq (cs : List Char) :
    firstFit lineEndWord? cs =
      ((Text.splitChars ['\n'] cs).find? endsInWord).map lastWord := by
  obtain ⟨ls, tail, hls, htail, rfl⟩ := Text.exists_lines cs
  rw [Text.splitChars_lines hls htail]
  induction ls with
  | nil =>
    have hline := firstFit_lineEndWord?_line htail [] (by simp)
    rw [List.append_nil] at hline
    rw [List.flatMap_nil, List.nil_append, List.nil_append, hline, List.find?_singleton]
    split <;> rfl
  | cons l ls ih =>
    obtain ⟨hl, hrest⟩ := List.forall_mem_cons.1 hls
    have hline := firstFit_lineEndWord?_line hl
      ('\n' :: (ls.flatMap (· ++ ['\n']) ++ tail)) (by simp)
    rw [List.flatMap_cons, List.append_assoc, List.append_assoc, List.singleton_append, hline,
      firstFit_lineEndWord?_feed, ih hrest, List.cons_append, List.find?_cons]
    split <;> simp_all

/-- Line feeds at the end do not change what is found. -/
theorem firstFit_lineEndWord?_feeds (cs : List Char) (n : Nat) :
    firstFit lineEndWord? (cs ++ List.replicate n '\n') = firstFit lineEndWord? cs := by
  induction n with
  | zero => rw [List.replicate_zero, List.append_nil]
  | succ n ih =>
    obtain ⟨ls, tail, hls, htail, hcs⟩ := Text.exists_lines (cs ++ List.replicate n '\n')
    have hended : ls.flatMap (· ++ ['\n']) ++ tail ++ ['\n'] =
        (ls ++ [tail]).flatMap (· ++ ['\n']) ++ [] := by simp
    have hlines : ∀ l ∈ ls ++ [tail], '\n' ∉ l :=
      List.forall_mem_append.2 ⟨hls, by simpa using htail⟩
    rw [← ih, List.replicate_succ', ← List.append_assoc, hcs, firstFit_lineEndWord?_eq,
      firstFit_lineEndWord?_eq, Text.splitChars_lines hls htail, hended,
      Text.splitChars_lines hlines List.not_mem_nil, List.find?_append]
    -- the new line is empty
    exact congrArg (Option.map lastWord) (Option.or_none)

end Words

/-! ### The name -/

/-- The line feeds at the end of an output are taken off. -/
theorem exists_dropEndWhile_feeds (cs : List Char) :
    ∃ n, cs = Text.dropEndWhile (· == '\n') cs ++ List.replicate n '\n' := by
  obtain ⟨n, hn, -⟩ := Text.exists_dropFinalNewlines (String.ofList cs)
  rw [Text.dropFinalNewlines, String.toList_ofList, String.toList_ofList] at hn
  exact ⟨n, hn⟩

theorem dropFinalDot_eq_nil_iff {w : List Char} : dropFinalDot w = [] ↔ w = [] ∨ w = ['.'] := by
  rw [dropFinalDot]
  split
  · next hdot =>
    obtain ⟨init, rfl⟩ := List.getLast?_eq_some_iff.1 hdot
    simp
  · next hdot =>
    have hne : w ≠ ['.'] := by
      rintro rfl
      exact hdot rfl
    rw [or_iff_left hne]

theorem mem_of_mem_dropFinalDot {w : List Char} {c : Char} (h : c ∈ dropFinalDot w) : c ∈ w := by
  rw [dropFinalDot] at h
  split at h
  · exact List.mem_of_mem_dropLast h
  · exact h

/-- A word makes a name unless nothing is left of it. -/
theorem name?_dropFinalDot_lastWord (cs : List Char) :
    name? (dropFinalDot (lastWord cs)) = lastName? cs := by
  rw [lastName?]
  split
  · next hnone => rw [dropFinalDot_eq_nil_iff.2 hnone, name?_nil]
  · next hsome =>
    exact name?_of_shown (fun c hc => isBlank_of_mem_lastWord (mem_of_mem_dropFinalDot hc))
      fun hnil => hsome (dropFinalDot_eq_nil_iff.1 hnil)

theorem ofResolution?_eq (output : String) :
    ofResolution? output =
      ((Text.splitChars ['\n'] output.toList).find? endsInWord).bind lastName? := by
  obtain ⟨n, hn⟩ := exists_dropEndWhile_feeds output.toList
  have hfind := firstFit_lineEndWord?_feeds (Text.dropEndWhile (· == '\n') output.toList) n
  rw [← hn, firstFit_lineEndWord?_eq output.toList] at hfind
  have hname : (fun w => name? (dropFinalDot w)) ∘ lastWord = lastName? := by
    funext cs
    rw [Function.comp_apply, name?_dropFinalDot_lastWord]
  rw [ofResolution?, ← hfind, Option.bind_map, hname]

/-! ### The last word of the output -/

/-- The last word of a text stands at the end of its line, and no line before ends in a word. -/
def LastWordFirst (cs : List Char) : Prop :=
  ∃ before line after, Text.splitChars ['\n'] cs = before ++ line :: after ∧
    (∀ l ∈ before, endsInWord l = false) ∧ endsInWord line = true ∧ ∀ l ∈ after, Text.Blank l

/-- Behind whole lines, and in front of white space on lines of its own, a line that ends in a word
ends in the last word. -/
theorem lastWord_of_line (ls : List (List Char)) {line post : List Char}
    (hline : endsInWord line = true) (hpost : Text.Blank post) :
    lastWord (ls.flatMap (· ++ ['\n']) ++ line ++ post) = lastWord line := by
  obtain ⟨front, heq, hfront, hne⟩ := exists_front_of_endsInWord hline
  have hfront' : ∀ c ∈ (ls.flatMap (· ++ ['\n']) ++ front).getLast?, Text.isBlank c = true := by
    intro c hc
    rw [List.getLast?_append] at hc
    cases hf : front.getLast? with
    | some d =>
      rw [hf] at hc
      exact hfront c (hf.trans hc)
    | none =>
      rw [hf, Option.none_or] at hc
      rcases List.eq_nil_or_concat ls with rfl | ⟨init, l, rfl⟩
      · exact nomatch hc
      · simp only [List.concat_eq_append, List.flatMap_append, List.flatMap_singleton,
          ← List.append_assoc, List.getLast?_concat, Option.mem_def, Option.some_inj] at hc
        rw [← hc]
        decide
  have hwhole : ls.flatMap (· ++ ['\n']) ++ line =
      ls.flatMap (· ++ ['\n']) ++ front ++ lastWord line := by
    rw [List.append_assoc, ← heq]
  rw [hwhole, lastWord_append hfront' (fun c => isBlank_of_mem_lastWord) hne hpost]

theorem lastWord_of_splitChars {before after : List (List Char)} {cs line : List Char}
    (hsplit : Text.splitChars ['\n'] cs = before ++ line :: after)
    (hline : endsInWord line = true) (hafter : ∀ l ∈ after, Text.Blank l) :
    lastWord cs = lastWord line := by
  obtain ⟨ls, tail, hls, htail, rfl⟩ := Text.exists_lines cs
  rw [Text.splitChars_lines hls htail] at hsplit
  rcases List.eq_nil_or_concat after with rfl | ⟨init, last, rfl⟩
  · obtain ⟨rfl, htail⟩ := List.append_inj' hsplit rfl
    obtain rfl : tail = line := by simpa using htail
    simpa using lastWord_of_line ls hline Text.blank_nil
  · rw [List.concat_eq_append, ← List.cons_append, ← List.append_assoc] at hsplit
    obtain ⟨rfl, hlast⟩ := List.append_inj' hsplit rfl
    obtain rfl : tail = last := by simpa using hlast
    have hpost : Text.Blank ('\n' :: (init.flatMap (· ++ ['\n']) ++ tail)) := by
      have hfeed : Text.Blank ['\n'] := by simp [Text.Blank, Text.isBlank]
      have hinit : Text.Blank (init.flatMap (· ++ ['\n'])) := by
        intro c hc
        obtain ⟨l, hl, hmem⟩ := List.mem_flatMap.1 hc
        exact ((hafter l (by simp [hl])).append hfeed) c hmem
      exact hfeed.append (hinit.append (hafter tail (by simp)))
    simpa using lastWord_of_line before hline hpost

/-- Name resolution gives the last word of the first line that ends in a word, and no name exactly
if there is no such line or its word is nothing but a dot. This is the last word of the output if no
line before that word ends in a word and only white space on further lines follows it. -/
theorem resolution_reads_line_end (output : String) :
    (ofResolution? output =
      ((Text.splitChars ['\n'] output.toList).find? endsInWord).bind lastName?) ∧
    (ofResolution? output = none ↔
      ∀ line ∈ (Text.splitChars ['\n'] output.toList).find? endsInWord, lastWord line = ['.']) ∧
    (LastWordFirst output.toList → ofResolution? output = lastName? output.toList) := by
  refine ⟨ofResolution?_eq output, ?_, ?_⟩
  · rw [ofResolution?_eq]
    cases hfind : (Text.splitChars ['\n'] output.toList).find? endsInWord with
    | none => simp
    | some line =>
      obtain ⟨_, -, -, hne⟩ := exists_front_of_endsInWord (List.find?_some hfind)
      rw [Option.bind_some, lastName?, ite_eq_left_iff]
      simp [hne]
  · rintro ⟨before, line, after, hsplit, hbefore, hline, hafter⟩
    have hfind : (Text.splitChars ['\n'] output.toList).find? endsInWord = some line := by
      rw [hsplit, List.find?_append, List.find?_eq_none.2 fun l hl => by simp [hbefore l hl],
        Option.none_or, List.find?_cons_of_pos hline]
    rw [ofResolution?_eq, hfind, Option.bind_some, lastName?, lastName?,
      lastWord_of_splitChars hsplit hline hafter]

/-- An answer of one line between line feeds gives the name at its end. -/
theorem resolution_reads_answer :
    LastWordFirst "\n10.0.0.5 resolves as host.example.com.\n".toList ∧
      ofResolution? "\n10.0.0.5 resolves as host.example.com.\n" = some "host.example.com" := by
  have hfirst : LastWordFirst "\n10.0.0.5 resolves as host.example.com.\n".toList :=
    ⟨[[]], "10.0.0.5 resolves as host.example.com.".toList, [[]], by decide +kernel,
      by simp [endsInWord], by decide, by simp [Text.Blank]⟩
  refine ⟨hfirst, ((resolution_reads_line_end _).2.2 hfirst).trans ?_⟩
  decide +kernel

/-- The last word of the output is missed behind a line that ends in a word, and where its own line
ends in a space or in a carriage return. -/
theorem resolution_misses_last_word :
    (ofResolution? "10.0.0.5 resolves as\nhost.example.com." = some "as" ∧
      lastName? "10.0.0.5 resolves as\nhost.example.com.".toList = some "host.example.com") ∧
    (ofResolution? "10.0.0.5 resolves as host.example.com. " = none ∧
      lastName? "10.0.0.5 resolves as host.example.com. ".toList = some "host.example.com") ∧
    (ofResolution? "10.0.0.5 resolves as host.example.com.\r\n" = none ∧
      lastName? "10.0.0.5 resolves as host.example.com.\r\n".toList =
        some "host.example.com") := by
  decide +kernel

end ScanQuery.HostName
