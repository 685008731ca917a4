import ScanQuery.Proofs.HostNames.Extracts

/-!
The readers as patterns. A pattern is a sequence of pieces that are matched from the left; a run
takes as much as it can and gives back one character after the other until the rest of the pattern
fits. Each reader takes what its pattern takes: most runs stop where the next piece begins, and
where a run has to give something back, it does so down to the last mark in it, which is a quote, a
colon or an equals sign.
-/

namespace ScanQuery.HostName

/-- A piece of a pattern: one character of a class, a run of characters of a class, or the end of
a line. -/
inductive Piece where
  | one (p : Char → Bool)
  | run (p : Char → Bool)
  | lineEnd

/-- Takes one character of a class and goes on behind it. -/
def takeOne (p : Char → Bool) (next : List Char → Option (List Char)) :
    List Char → Option (List Char)
  | [] => none
  | c :: cs => if p c then (next cs).map (c :: ·) else none

/-- Takes characters of a class as long as they last and goes on behind them; where that fails, it
gives them back one by one until it can go on. -/
def takeRun (p : Char → Bool) (next : List Char → Option (List Char)) :
    List Char → Option (List Char)
  | [] => next []
  | c :: cs =>
    if p c then ((takeRun p next cs).map (c :: ·)).orElse fun _ => next (c :: cs)
    else next (c :: cs)

/-- What a pattern takes of a text, from its start. -/
def fit? : List Piece → List Char → Option (List Char)
  | [] => fun _ => some []
  | .one p :: pieces => takeOne p (fit? pieces)
  | .run p :: pieces => takeRun p (fit? pieces)
  | .lineEnd :: pieces => fun cs => if cs.head?.getD '\n' = '\n' then fit? pieces cs else none

/-! ### Single characters and runs -/

section Runs

variable {p : Char → Bool} {next : List Char → Option (List Char)}

theorem takeOne_of_mark (d : Char) (cs : List Char) :
    takeOne (· == d) next (d :: cs) = (next cs).map (d :: ·) :=
  if_pos (beq_self_eq_true d)

theorem takeOne_of_no_mark {d : Char} {cs : List Char} (h : ∀ tail, cs ≠ d :: tail) :
    takeOne (· == d) next cs = none := by
  cases cs with
  | nil => rfl
  | cons c cs =>
    refine if_neg fun hc => h cs ?_
    rw [eq_of_beq hc]

/-- A run gives nothing back if what follows cannot begin with one of its characters. -/
theorem takeRun_of_stops (h : ∀ c cs, p c = true → next (c :: cs) = none) (cs : List Char) :
    takeRun p next cs = (next (cs.dropWhile p)).map (cs.takeWhile p ++ ·) := by
  induction cs with
  | nil => simp [takeRun]
  | cons c cs ih =>
    rw [takeRun]
    split
    · next hc =>
      rw [ih, h c cs hc, List.dropWhile_cons_of_pos hc, List.takeWhile_cons_of_pos hc]
      cases next (cs.dropWhile p) <;> rfl
    · next hc =>
      rw [List.dropWhile_cons_of_neg hc, List.takeWhile_cons_of_neg hc]
      simp

/-- A run gives nothing back if what follows fits behind all of it. -/
theorem takeRun_of_fits {cs rest : List Char} (h : next (cs.dropWhile p) = some rest) :
    takeRun p next cs = some (cs.takeWhile p ++ rest) := by
  induction cs with
  | nil => exact h
  | cons c cs ih =>
    rw [takeRun]
    split
    · next hc =>
      rw [List.dropWhile_cons_of_pos hc] at h
      rw [ih h, List.takeWhile_cons_of_pos hc]
      rfl
    · next hc =>
      rw [List.dropWhile_cons_of_neg hc] at h
      rw [List.takeWhile_cons_of_neg hc]
      exact h

theorem takeRun_of_total (k : List Char → List Char) (cs : List Char) :
    takeRun p (fun cs => some (k cs)) cs = some (cs.takeWhile p ++ k (cs.dropWhile p)) :=
  takeRun_of_fits rfl

/-- A run gives back all behind its last mark if what follows fits at a mark and nowhere else. -/
theorem takeRun_of_mark {d : Char} {k : List Char → List Char}
    (h : ∀ c cs, p c = true → next (c :: cs) = if c = d then some (d :: k cs) else none)
    {cs : List Char} (hend : next (cs.dropWhile p) = none) :
    takeRun p next cs =
      if d ∈ cs.takeWhile p then
        let front := Text.dropEndWhile (· != d) (cs.takeWhile p)
        some (front ++ k (cs.drop front.length))
      else none := by
  induction cs with
  | nil => exact hend
  | cons c cs ih =>
    rw [takeRun]
    split
    · next hc =>
      rw [List.dropWhile_cons_of_pos hc] at hend
      rw [ih hend, h c cs hc, List.takeWhile_cons_of_pos hc]
      -- a mark further on goes before one at the start
      by_cases hd : d ∈ cs.takeWhile p
      · rw [if_pos hd, if_pos (List.mem_cons_of_mem c hd),
          Text.dropEndWhile_cons_of_mem hd (by simp)]
        rfl
      · rw [if_neg hd, Text.dropEndWhile_cons_of_all c (Text.bne_of_not_mem hd)]
        by_cases hcd : c = d
        · subst hcd
          simp
        · simp [hcd, hd, Ne.symm hcd]
    · next hc =>
      rw [List.dropWhile_cons_of_neg hc] at hend
      rw [List.takeWhile_cons_of_neg hc, if_neg List.not_mem_nil]
      exact hend

/-- A run with nothing behind it takes all that it can. -/
theorem fit?_run (p : Char → Bool) (cs : List Char) : fit? [.run p] cs = some (cs.takeWhile p) := by
  change takeRun p (fun _ => some []) cs = _
  rw [takeRun_of_total, List.append_nil]

end Runs

/-! ### The patterns -/

/-- A word that ends a line: `\S+$`. -/
def lineEndPattern : List Piece :=
  [.one (!Text.isBlank ·), .run (!Text.isBlank ·), .lineEnd]

/-- A word behind a white space character: `\s\S+`. -/
def spacedWordPattern : List Piece :=
  [.one Text.isBlank, .one (!Text.isBlank ·), .run (!Text.isBlank ·)]

/-- An entry of a name table: `\S*[ ]*=\S*` and twice `\s\S+`. -/
def tablePattern : List Piece :=
  [.run (!Text.isBlank ·), .run (· == ' '), .one (· == '='), .run (!Text.isBlank ·)] ++
    (spacedWordPattern ++ spacedWordPattern)

/-- What stands in quotes on a line: `'.*'`. -/
def quotesPattern : List Piece :=
  [.one (· == '\''), .run (· != '\n'), .one (· == '\'')]

/-- A label and its value: `\W*\w*:\W*\w*.*`. -/
def labelPattern : List Piece :=
  [.run (!Text.isWord ·), .run Text.isWord, .one (· == ':'), .run (!Text.isWord ·),
    .run Text.isWord, .run (· != '\n')]

/-! ### Words -/

theorem lineEndWord?_eq_fit? (cs : List Char) : lineEndWord? cs = fit? lineEndPattern cs := by
  have hstops : ∀ c cs, (!Text.isBlank c) = true → fit? [.lineEnd] (c :: cs) = none := by
    intro c cs hc
    have hfeed : c ≠ '\n' := by
      rintro rfl
      exact absurd hc (by decide)
    exact if_neg hfeed
  cases cs with
  | nil => rfl
  | cons c cs =>
    rw [lineEndPattern, fit?, fit?, takeOne, takeRun_of_stops hstops, lineEndWord?]
    cases hc : Text.isBlank c with
    | true =>
      rw [word_cons_of_blank hc]
      rfl
    | false =>
      rw [word_cons_of_shown hc, afterWord_cons_of_shown hc]
      change _ = ((fit? [.lineEnd] (afterWord cs)).map (word cs ++ ·)).map (c :: ·)
      cases hrest : afterWord cs with
      | nil => simp [fit?]
      | cons d ds => by_cases hd : d = '\n' <;> simp [fit?, hd]

/-! ### Name tables -/

/-- A word behind white space, in front of what takes nothing from the word. -/
theorem takeOne_spacedWord {next : List Char → Option (List Char)}
    (hrun : ∀ cs, takeRun (!Text.isBlank ·) next cs = (next (afterWord cs)).map (word cs ++ ·))
    (cs : List Char) :
    takeOne Text.isBlank (takeOne (!Text.isBlank ·) (takeRun (!Text.isBlank ·) next)) cs =
      (spacedWord? cs).bind fun found => (next found.2).map (found.1 ++ ·) := by
  cases cs with
  | nil => rfl
  | cons c cs =>
    rw [takeOne, spacedWord?]
    cases hc : Text.isBlank c with
    | false => simp
    | true =>
      cases cs with
      | nil => rfl
      | cons d ds =>
        rw [takeOne, hrun]
        cases hd : Text.isBlank d with
        | true => simp [word_cons_of_blank hd]
        | false =>
          rw [word_cons_of_shown hd, afterWord_cons_of_shown hd]
          simp [Function.comp_def]

theorem twoSpacedWords?_eq_fit? (cs : List Char) :
    twoSpacedWords? cs = fit? (spacedWordPattern ++ spacedWordPattern) cs := by
  have hlast : ∀ cs, takeRun (!Text.isBlank ·) (fit? []) cs =
      (fit? [] (afterWord cs)).map (word cs ++ ·) := fun cs => takeRun_of_fits rfl
  have hfirst : ∀ cs, takeRun (!Text.isBlank ·) (fit? spacedWordPattern) cs =
      (fit? spacedWordPattern (afterWord cs)).map (word cs ++ ·) := by
    refine takeRun_of_stops fun c cs hc => ?_
    have hblank : ¬ Text.isBlank c = true := by simpa using hc
    exact if_neg hblank
  change _ = takeOne Text.isBlank (takeOne (!Text.isBlank ·)
    (takeRun (!Text.isBlank ·) (fit? spacedWordPattern))) cs
  rw [takeOne_spacedWord hfirst, twoSpacedWords?]
  refine Option.bind_congr fun ⟨w, rest⟩ _ => ?_
  change (spacedWord? rest).bind _ = (takeOne Text.isBlank (takeOne (!Text.isBlank ·)
    (takeRun (!Text.isBlank ·) (fit? []))) rest).map _
  rw [takeOne_spacedWord hlast]
  cases spacedWord? rest with
  | none => rfl
  | some second => simp [fit?]

/-- An entry behind its first word: spaces, an equals sign and the rest. -/
def tableRest? (cs : List Char) : Option (List Char) :=
  match cs.dropWhile (· == ' ') with
  | '=' :: tail => (twoSpacedWords? (afterWord tail)).map fun words =>
      cs.takeWhile (· == ' ') ++ '=' :: (word tail ++ words)
  | _ => none

theorem tableRest?_of_equals {cs tail : List Char}
    (h : cs.dropWhile (· == ' ') = '=' :: tail) :
    tableRest? cs = (twoSpacedWords? (afterWord tail)).map fun words =>
      cs.takeWhile (· == ' ') ++ '=' :: (word tail ++ words) := by
  simp only [tableRest?, h]

theorem tableRest?_of_no_equals {cs : List Char}
    (h : ∀ tail, cs.dropWhile (· == ' ') ≠ '=' :: tail) : tableRest? cs = none := by
  unfold tableRest?
  split
  · next tail hdrop => exact absurd hdrop (h tail)
  · rfl

theorem tableRest?_eq_fit? (cs : List Char) : tableRest? cs = fit? (tablePattern.drop 1) cs := by
  have hvalue : ∀ cs, takeRun (!Text.isBlank ·) (fit? (spacedWordPattern ++ spacedWordPattern)) cs =
      (twoSpacedWords? (afterWord cs)).map (word cs ++ ·) := by
    intro cs
    rw [twoSpacedWords?_eq_fit?]
    refine takeRun_of_stops (fun c cs hc => ?_) cs
    have hblank : ¬ Text.isBlank c = true := by simpa using hc
    exact if_neg hblank
  have hequals : ∀ c cs, (c == ' ') = true →
      takeOne (· == '=') (takeRun (!Text.isBlank ·)
        (fit? (spacedWordPattern ++ spacedWordPattern))) (c :: cs) = none := by
    intro c cs hc
    obtain rfl := eq_of_beq hc
    exact takeOne_of_no_mark (by simp)
  change _ = takeRun (· == ' ') (takeOne (· == '=') (takeRun (!Text.isBlank ·)
    (fit? (spacedWordPattern ++ spacedWordPattern)))) cs
  rw [takeRun_of_stops hequals, tableRest?]
  split
  · next tail hdrop =>
    rw [hdrop, takeOne_of_mark, hvalue]
    simp [Function.comp_def]
  · next hdrop => rw [takeOne_of_no_mark hdrop, Option.map_none]

theorem tableRest?_cons_of_shown {c : Char} {cs : List Char} (hc : Text.isBlank c = false) :
    tableRest? (c :: cs) =
      if c = '=' then (twoSpacedWords? (afterWord cs)).map fun words => c :: (word cs ++ words)
      else none := by
  have hspace : ¬ (c == ' ') = true := by
    rw [beq_iff_eq]
    rintro rfl
    exact absurd hc (by decide)
  have hdrop : (c :: cs).dropWhile (· == ' ') = c :: cs := List.dropWhile_cons_of_neg hspace
  have htake : (c :: cs).takeWhile (· == ' ') = [] := List.takeWhile_cons_of_neg hspace
  by_cases hequals : c = '='
  · subst hequals
    rw [tableRest?_of_equals hdrop, htake]
    rfl
  · rw [if_neg hequals]
    exact tableRest?_of_no_equals fun tail heq =>
      hequals (List.cons.inj (hdrop.symm.trans heq)).1

/-- Where the rest does not fit behind the first word, it fits at the last equals sign in it, if
two words follow. -/
theorem takeRun_tableRest? {cs : List Char} (hend : tableRest? (afterWord cs) = none) :
    takeRun (!Text.isBlank ·) tableRest? cs =
      if '=' ∈ word cs then (twoSpacedWords? (afterWord cs)).map (word cs ++ ·) else none := by
  induction cs with
  | nil => exact hend
  | cons c cs ih =>
    rw [takeRun]
    cases hc : Text.isBlank c with
    | true =>
      rw [afterWord_cons_of_blank hc] at hend
      rw [word_cons_of_blank hc, if_neg List.not_mem_nil, hend]
      rfl
    | false =>
      rw [afterWord_cons_of_shown hc] at hend
      rw [word_cons_of_shown hc, afterWord_cons_of_shown hc, ih hend, tableRest?_cons_of_shown hc]
      by_cases hmem : '=' ∈ word cs
      · rw [if_pos hmem, if_pos (List.mem_cons_of_mem c hmem)]
        cases twoSpacedWords? (afterWord cs) <;> simp
      · by_cases hequals : c = '='
        · subst hequals
          simp [hmem]
        · simp [hmem, hequals, Ne.symm hequals]

theorem tableEntry?_eq_fit? (cs : List Char) : tableEntry? cs = fit? tablePattern cs := by
  have hrest : tableRest? = fit? (tablePattern.drop 1) := funext tableRest?_eq_fit?
  change _ = takeRun (!Text.isBlank ·) (fit? (tablePattern.drop 1)) cs
  rw [← hrest]
  have hentry : tableEntry? cs = ((tableRest? (afterWord cs)).map (word cs ++ ·)).orElse fun _ =>
      if '=' ∈ word cs then (twoSpacedWords? (afterWord cs)).map (word cs ++ ·) else none := by
    simp only [ tableEntry?, List.contains_iff_mem]
    congr 1
    split
    · next tail hdrop =>
      rw [tableRest?_of_equals hdrop, Option.map_map]
      simp [Function.comp_def]
    · next hnone => rw [tableRest?_of_no_equals hnone, Option.map_none]
  rw [hentry]
  cases hfit : tableRest? (afterWord cs) with
  | none => exact (takeRun_tableRest? hfit).symm
  | some rest => exact (takeRun_of_fits hfit).symm

/-! ### Quoted names -/

theorem quoted?_eq_fit? (cs : List Char) :
    (quoted? cs).map ('\'' :: ·) = fit? quotesPattern cs := by
  have hmark : ∀ c cs, (c != '\n') = true → fit? [.one (· == '\'')] (c :: cs) =
      if c = '\'' then some ('\'' :: (fun _ => []) cs) else none := by
    intro c cs _
    by_cases hc : c = '\'' <;> simp [fit?, takeOne, hc]
  cases cs with
  | nil => rfl
  | cons c cs =>
    have hend : fit? [.one (· == '\'')] (cs.dropWhile (· != '\n')) = none := by
      refine takeOne_of_no_mark fun tail hrest => ?_
      have hhead : '\'' ∈ (cs.dropWhile (· != '\n')).head? := by
        rw [hrest]
        rfl
      exact absurd (Text.not_of_mem_head?_dropWhile hhead) (by decide)
    rw [quotesPattern, fit?, fit?, takeOne, takeRun_of_mark hmark hend]
    by_cases hc : c = '\''
    · subst hc
      rw [if_pos (beq_self_eq_true '\''), quoted?]
      simp only [List.append_nil, List.contains_iff_mem, restOfLine]
    · rw [if_neg (by simpa using hc), quoted?_of_not_quote (by simpa using hc), Option.map_none]

/-- A run takes the line and gives back what stands behind the last quote. -/
example : fit? quotesPattern "'a' and 'b' here".toList = some "'a' and 'b'".toList := by
  decide +kernel

/-! ### Labelled names -/

/-- A label's value fits every text. -/
theorem labelValue_eq_fit? (cs : List Char) :
    some (labelValue cs) = fit? (labelPattern.drop 3) cs := by
  have hline : fit? [.run (· != '\n')] =
      fun cs => some (restOfLine cs) := funext fun cs => fit?_run _ cs
  have hword : fit? [.run Text.isWord, .run (· != '\n')] = fun cs =>
      some (cs.takeWhile Text.isWord ++ restOfLine (cs.dropWhile Text.isWord)) :=
    funext fun cs => by rw [fit?, hline, takeRun_of_total]
  change _ = takeRun (!Text.isWord ·) (fit? [.run Text.isWord, .run (· != '\n')]) cs
  rw [hword, takeRun_of_total, labelValue, symbolsAndWord]
  simp only [List.append_assoc]

/-- A label behind its symbols: a word, a colon and the value. -/
def labelRest? (cs : List Char) : Option (List Char) :=
  match cs.dropWhile Text.isWord with
  | ':' :: tail => some (cs.takeWhile Text.isWord ++ ':' :: labelValue tail)
  | _ => none

theorem labelRest?_eq_fit? (cs : List Char) : labelRest? cs = fit? (labelPattern.drop 1) cs := by
  have hcolon : ∀ c cs, Text.isWord c = true →
      takeOne (· == ':') (fit? (labelPattern.drop 3)) (c :: cs) = none := by
    intro c cs hc
    refine takeOne_of_no_mark fun tail heq => ?_
    rw [(List.cons.inj heq).1, isWord_colon] at hc
    exact Bool.false_ne_true hc
  change _ = takeRun Text.isWord (takeOne (· == ':') (fit? (labelPattern.drop 3))) cs
  rw [takeRun_of_stops hcolon, labelRest?]
  split
  · next tail hdrop =>
    rw [hdrop, takeOne_of_mark, ← labelValue_eq_fit?, Option.map_some, Option.map_some]
  · next hdrop => rw [takeOne_of_no_mark hdrop, Option.map_none]

theorem labelRest?_cons_of_symbol {c : Char} (hc : Text.isWord c = false) (cs : List Char) :
    labelRest? (c :: cs) = if c = ':' then some (':' :: labelValue cs) else none := by
  have hword : ¬ Text.isWord c = true := by simp [hc]
  rw [labelRest?, List.dropWhile_cons_of_neg hword, List.takeWhile_cons_of_neg hword]
  by_cases hcolon : c = ':'
  · subst hcolon
    rfl
  · rw [if_neg hcolon]
    split
    · next heq => exact absurd (List.cons.inj heq).1 hcolon
    · rfl

theorem labelled?_eq_fit? (cs : List Char) : labelled? cs = fit? labelPattern cs := by
  have hrest : labelRest? = fit? (labelPattern.drop 1) := funext labelRest?_eq_fit?
  have hmark : ∀ c cs, (!Text.isWord c) = true →
      labelRest? (c :: cs) = if c = ':' then some (':' :: labelValue cs) else none :=
    fun c cs hc => labelRest?_cons_of_symbol (by simpa using hc) cs
  change _ = takeRun (!Text.isWord ·) (fit? (labelPattern.drop 1)) cs
  rw [← hrest, labelled?, symbolsAndWord]
  simp only [List.contains_iff_mem]
  split
  · next tail hdrop =>
    have hfits : labelRest? (cs.dropWhile (!Text.isWord ·)) =
        some ((cs.dropWhile (!Text.isWord ·)).takeWhile Text.isWord ++ ':' :: labelValue tail) := by
      simp only [labelRest?, hdrop]
    rw [takeRun_of_fits hfits, List.append_assoc]
  · next hnone =>
    have hend : labelRest? (cs.dropWhile (!Text.isWord ·)) = none := by
      unfold labelRest?
      split
      · next tail hdrop => exact (hnone tail hdrop).elim
      · rfl
    exact (takeRun_of_mark hmark hend).symm

end ScanQuery.HostName
