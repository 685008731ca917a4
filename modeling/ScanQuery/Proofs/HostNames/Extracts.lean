import ScanQuery.Proofs.HostNames.Reading
import ScanQuery.Proofs.Text.Lowering

/-!
What is read off name tables, quotes and labels. A table entry with spaces in front of its equals
sign begins with the name. Of quotes and labels only the first line with two quotes and the first
colon matter: however a label is matched, the name stands behind the first colon of the output and
in front of the next, as far as the match reaches.
-/

namespace ScanQuery

/-! ### Word characters -/

namespace Text

theorem isWord_of_isBlank {c : Char} (h : isBlank c = true) : isWord c = false := by
  have hword : ∀ n ∈ blankCodes, inRanges wordRanges n = false := by decide +kernel
  exact hword c.toNat (toNat_mem_blankCodes h)

theorem isWord_of_isAlphanum {c : Char} (h : c.isAlphanum = true) : isWord c = true := by
  have hascii : c.toNat < 0x80 := by
    simp only [Char.isAlphanum, Char.isAlpha, Char.isUpper, Char.isLower, Char.isDigit,
      UInt32.le_iff_toNat_le, Bool.or_eq_true, Bool.and_eq_true, decide_eq_true_eq] at h
    change ((65 ≤ c.toNat ∧ c.toNat ≤ 90) ∨ 97 ≤ c.toNat ∧ c.toNat ≤ 122) ∨
      48 ≤ c.toNat ∧ c.toNat ≤ 57 at h
    omega
  exact forall_ascii (P := fun c => c.isAlphanum = true → isWord c = true) (by decide +kernel)
    hascii h

end Text

namespace HostName

variable {cs front rest tail : List Char}

/-! ### Name tables -/

section Table

theorem spacedWord?_of_word {c : Char} {w : List Char} (hc : Text.isBlank c = true)
    (hw : ∀ c ∈ w, Text.isBlank c = false) (hne : w ≠ [])
    (hrest : ∀ c ∈ rest.head?, Text.isBlank c = true) :
    spacedWord? (c :: (w ++ rest)) = some (c :: w, rest) := by
  rw [spacedWord?, word_append hw hrest, afterWord_append hw hrest]
  exact if_pos ⟨hc, by simpa using hne⟩

/-- A word, spaces, an equals sign and two words in front of white space make an entry. -/
theorem tableEntry?_of_spaced {w words : List Char} {k : Nat}
    (hw : ∀ c ∈ w, Text.isBlank c = false)
    (hwords : twoSpacedWords? (afterWord tail) = some words) :
    tableEntry? (w ++ List.replicate (k + 1) ' ' ++ '=' :: tail) =
      some (w ++ List.replicate (k + 1) ' ' ++ '=' :: (word tail ++ words)) := by
  have hspaces : ∀ c ∈ List.replicate (k + 1) ' ', (c == ' ') = true := by
    intro c hc
    rw [List.eq_of_mem_replicate hc]
    rfl
  have hblank : ∀ c ∈ (List.replicate (k + 1) ' ' ++ '=' :: tail).head?,
      Text.isBlank c = true := by
    intro c hc
    obtain rfl : ' ' = c := by simpa [List.replicate_succ] using hc
    rfl
  have hequals : ∀ c ∈ ('=' :: tail).head?, (c == ' ') = false := by
    intro c hc
    obtain rfl : '=' = c := by simpa using hc
    rfl
  rw [ tableEntry?, List.append_assoc, word_append hw hblank, afterWord_append hw hblank,
    Text.takeWhile_append_of_head hspaces hequals, Text.dropWhile_append_of_head hspaces hequals]
  simp only [hwords, Option.map_some, Option.orElse_some]

/-- An entry has an equals sign, behind spaces or in its first word. -/
theorem equals_of_tableEntry? {entry : List Char} (h : tableEntry? cs = some entry) :
    (∃ tail words, (afterWord cs).dropWhile (· == ' ') = '=' :: tail ∧
      twoSpacedWords? (afterWord tail) = some words ∧
      entry = word cs ++ (afterWord cs).takeWhile (· == ' ') ++ '=' :: (word tail ++ words)) ∨
    ∃ words, '=' ∈ word cs ∧ twoSpacedWords? (afterWord cs) = some words ∧
      entry = word cs ++ words := by
  rw [ tableEntry?, Option.orElse_eq_or, Option.or_eq_some_iff] at h
  rcases h with h | ⟨-, h⟩
  · left
    split at h
    · next tail hdrop =>
      obtain ⟨words, hwords, rfl⟩ := Option.map_eq_some_iff.1 h
      exact ⟨tail, words, hdrop, hwords, rfl⟩
    · exact nomatch h
  · right
    split at h
    · next hmem =>
      obtain ⟨words, hwords, rfl⟩ := Option.map_eq_some_iff.1 h
      exact ⟨words, List.contains_iff_mem.1 hmem, hwords, rfl⟩
    · exact nomatch h

end Table

/-! ### Quoted names -/

theorem quoted?_of_not_quote (h : '\'' ∉ cs.head?) : quoted? cs = none := by
  unfold quoted?
  split
  · exact absurd rfl h
  · rfl

theorem exists_of_quoted? {quoted : List Char} (h : quoted? cs = some quoted) :
    ∃ tail, cs = '\'' :: tail ∧ '\'' ∈ restOfLine tail ∧
      quoted = Text.dropEndWhile (· != '\'') (restOfLine tail) := by
  unfold quoted? at h
  split at h
  · next tail =>
    obtain ⟨hmem, hquoted⟩ := Option.ite_none_right_eq_some.1 h
    exact ⟨tail, rfl, List.contains_iff_mem.1 hmem, (Option.some.inj hquoted).symm⟩
  · exact nomatch h

/-! ### Labelled names -/

section Label

theorem isWord_colon : Text.isWord ':' = false := by
  decide +kernel

/-- The text behind the first colon. -/
def behindColon (cs : List Char) : List Char :=
  (cs.dropWhile (· != ':')).drop 1

/-- The text up to the next colon. -/
def toColon (cs : List Char) : List Char :=
  cs.takeWhile (· != ':')

theorem behindColon_append (h : ':' ∉ front) : behindColon (front ++ ':' :: rest) = rest := by
  rw [behindColon, List.dropWhile_append_of_pos (Text.bne_of_not_mem h)]
  rfl

theorem behindColon_append_of_mem (h : ':' ∈ front) (rest : List Char) :
    behindColon (front ++ rest) = behindColon front ++ rest := by
  rw [behindColon, behindColon, Text.dropWhile_append_of_mem h rfl]
  cases hdrop : front.dropWhile (· != ':') with
  | nil => exact absurd (List.dropWhile_eq_nil_iff.1 hdrop ':' h) (by decide)
  | cons c cs => rfl

theorem behindColon_suffix (cs : List Char) : behindColon cs <:+ cs :=
  (List.drop_suffix _ _).trans (List.dropWhile_suffix _)

theorem toColon_append_colon (front rest : List Char) :
    toColon (front ++ ':' :: rest) = toColon (front ++ [':']) := by
  rw [toColon, toColon, ← List.singleton_append, ← List.append_assoc]
  exact Text.takeWhile_append_of_mem (List.mem_append_right front List.mem_cons_self) rfl rest

variable {symbols w : List Char}

/-- In front of a word, the value of a label reaches to the end of the line of that word. -/
theorem labelValue_append (hsymbols : ∀ c ∈ symbols, Text.isWord c = false)
    (hrest : ∀ c ∈ rest.head?, Text.isWord c = true) :
    labelValue (symbols ++ rest) = symbols ++ restOfLine rest := by
  have hsymbols' : ∀ c ∈ symbols, (!Text.isWord c) = true := fun c hc => by rw [hsymbols c hc]; rfl
  have hrest' : ∀ c ∈ rest.head?, (!Text.isWord c) = false := fun c hc => by rw [hrest c hc]; rfl
  have hline : rest.takeWhile Text.isWord ++ restOfLine (rest.dropWhile Text.isWord) =
      restOfLine rest := by
    have hfeed : '\n' ∉ rest.takeWhile Text.isWord :=
      fun hmem => absurd (List.mem_takeWhile_imp hmem) (by decide +kernel)
    conv_rhs => rw [← List.takeWhile_append_dropWhile (p := Text.isWord) (l := rest)]
    rw [restOfLine, restOfLine, List.takeWhile_append_of_pos (Text.bne_of_not_mem hfeed)]
  simp only [labelValue, symbolsAndWord]
  rw [Text.takeWhile_append_of_head hsymbols' hrest',
    Text.dropWhile_append_of_head hsymbols' hrest', List.append_assoc, hline]

/-- A colon behind symbols and a word is part of the value. -/
theorem exists_labelValue_colon (hsymbols : ∀ c ∈ symbols, Text.isWord c = false)
    (hw : ∀ c ∈ w, Text.isWord c = true) (tail : List Char) :
    ∃ more, labelValue (symbols ++ (w ++ ':' :: tail)) = symbols ++ (w ++ ':' :: more) := by
  cases w with
  | nil =>
    have hsymbols' : ∀ c ∈ symbols, (!Text.isWord c) = true := fun c hc => by
      rw [hsymbols c hc]; rfl
    have hcolon : (':' :: tail).takeWhile (!Text.isWord ·) =
        ':' :: tail.takeWhile (!Text.isWord ·) :=
      List.takeWhile_cons_of_pos (by rw [isWord_colon]; rfl)
    simp only [labelValue, symbolsAndWord]
    rw [List.nil_append, List.takeWhile_append_of_pos hsymbols', hcolon]
    simp only [List.append_assoc, List.cons_append]
    exact ⟨_, rfl⟩
  | cons d w =>
    have hfeed : '\n' ∉ d :: w := fun hmem => absurd (hw '\n' hmem) (by decide +kernel)
    have hhead : ∀ c ∈ (d :: w ++ ':' :: tail).head?, Text.isWord c = true := by
      intro c hc
      obtain rfl : d = c := by simpa using hc
      exact hw d List.mem_cons_self
    rw [labelValue_append hsymbols hhead, restOfLine,
      List.takeWhile_append_of_pos (Text.bne_of_not_mem hfeed),
      List.takeWhile_cons_of_pos (by decide)]
    exact ⟨_, rfl⟩

/-- A label is symbols, a word and a colon, and its value stands behind the colon. -/
theorem exists_of_labelled? {found : List Char} (h : labelled? cs = some found) :
    ∃ symbols w tail, (∀ c ∈ symbols, Text.isWord c = false) ∧ (∀ c ∈ w, Text.isWord c = true) ∧
      cs = symbols ++ (w ++ ':' :: tail) ∧
        found = symbols ++ (w ++ ':' :: labelValue tail) := by
  have hsymbols : ∀ c ∈ cs.takeWhile (!Text.isWord ·), Text.isWord c = false :=
    fun c hc => by simpa using List.mem_takeWhile_imp hc
  have hcs : cs = cs.takeWhile (!Text.isWord ·) ++
      ((cs.dropWhile (!Text.isWord ·)).takeWhile Text.isWord ++
        (cs.dropWhile (!Text.isWord ·)).dropWhile Text.isWord) := by
    rw [List.takeWhile_append_dropWhile, List.takeWhile_append_dropWhile]
  simp only [labelled?, symbolsAndWord] at h
  split at h
  · next tail hrest =>
    obtain rfl := Option.some.inj h
    rw [hrest] at hcs
    refine ⟨_, _, tail, hsymbols, fun c hc => List.mem_takeWhile_imp hc, hcs, ?_⟩
    rw [List.append_assoc]
  · obtain ⟨hmem, hfound⟩ := Option.ite_none_right_eq_some.1 h
    obtain rfl := Option.some.inj hfound
    obtain ⟨init, post, hrun, hlabel⟩ :=
      Text.exists_dropEndWhile_of_mark (List.contains_iff_mem.1 hmem)
    have hcs' : cs = init ++ ([] ++ ':' :: (post ++ cs.dropWhile (!Text.isWord ·))) := by
      conv_lhs => rw [← List.takeWhile_append_dropWhile (p := (!Text.isWord ·)) (l := cs), hrun]
      rw [List.append_assoc, List.cons_append, List.nil_append]
    have hdrop : cs.drop (init ++ [':']).length = post ++ cs.dropWhile (!Text.isWord ·) := by
      rw [List.nil_append, List.append_cons] at hcs'
      conv_lhs => rw [hcs', List.drop_left]
    refine ⟨init, [], _, fun c hc => hsymbols c ?_, by simp, hcs', ?_⟩
    · rw [hrun]
      exact List.mem_append_left _ hc
    · rw [hlabel, hdrop, List.append_assoc, List.nil_append, List.singleton_append]

/-- What follows the first colon of a label and its value is the value that would be read behind the
first colon of the text, as far as the next colon. -/
theorem toColon_behindColon_of_labelled? {found : List Char} (h : labelled? cs = some found) :
    ':' ∈ cs ∧ toColon (behindColon found) = toColon (labelValue (behindColon cs)) := by
  obtain ⟨symbols, w, tail, hsymbols, hw, rfl, rfl⟩ := exists_of_labelled? h
  refine ⟨by simp, ?_⟩
  by_cases hcolon : ':' ∈ symbols
  · -- the label itself has a further colon, which ends the value as well
    have hsuffix : ∀ c ∈ behindColon symbols, Text.isWord c = false := fun c hc =>
      hsymbols c ((behindColon_suffix symbols).subset hc)
    obtain ⟨more, hmore⟩ := exists_labelValue_colon hsuffix hw tail
    rw [behindColon_append_of_mem hcolon, behindColon_append_of_mem hcolon, hmore,
      ← List.append_assoc, ← List.append_assoc, toColon_append_colon,
      toColon_append_colon _ more]
  · have hword : ':' ∉ w := fun hmem => by
      have hc := hw ':' hmem
      rw [isWord_colon] at hc
      exact Bool.false_ne_true hc
    have hlabel : ':' ∉ symbols ++ w := List.not_mem_append hcolon hword
    rw [← List.append_assoc, ← List.append_assoc, behindColon_append hlabel,
      behindColon_append hlabel]

theorem labelled?_colon (cs : List Char) : labelled? (':' :: cs) ≠ none := by
  have hsymbols : ((':' :: cs).takeWhile (!Text.isWord ·)).contains ':' = true := by
    rw [List.takeWhile_cons_of_pos (by rw [isWord_colon]; rfl)]
    simp
  intro hnone
  simp only [labelled?] at hnone
  split at hnone
  · exact nomatch hnone
  · rw [if_pos hsymbols] at hnone
    exact nomatch hnone

theorem firstFit_labelled? (cs : List Char) :
    (firstFit labelled? cs).map (fun found => toColon (behindColon found)) =
      if ':' ∈ cs then some (toColon (labelValue (behindColon cs))) else none := by
  induction cs with
  | nil => decide
  | cons c cs ih =>
    cases hfit : labelled? (c :: cs) with
    | some found =>
      obtain ⟨hmem, heq⟩ := toColon_behindColon_of_labelled? hfit
      rw [firstFit_of_fit hfit, if_pos hmem, Option.map_some, heq]
    | none =>
      have hc : c ≠ ':' := by
        rintro rfl
        exact labelled?_colon cs hfit
      have hbehind : behindColon (c :: cs) = behindColon cs := by
        rw [behindColon, List.dropWhile_cons_of_pos (by simpa using hc)]
        rfl
      rw [firstFit_cons_of_none hfit, ih, hbehind]
      simp [Ne.symm hc]

/-- The characters of an output without its spaces. -/
def compact (output : String) : List Char :=
  output.toList.filter (· != ' ')

theorem compact_append (s t : String) : compact (s ++ t) = compact s ++ compact t := by
  rw [compact, String.toList_append, List.filter_append, compact, compact]

/-- The name of a device is the value behind the first colon, up to the next. -/
theorem ofLabel?_eq (output : String) :
    ofLabel? output =
      if ':' ∈ compact output then name? (toColon (labelValue (behindColon (compact output))))
      else none := by
  have hfirst := firstFit_labelled? (compact output)
  rw [ofLabel?]
  change (firstFit labelled? (compact output)).bind (fun cs => name? (toColon (behindColon cs))) = _
  cases hfind : firstFit labelled? (compact output) with
  | none =>
    rw [hfind, Option.map_none] at hfirst
    split at hfirst
    · exact nomatch hfirst
    · next hcolon => rw [Option.bind_none, if_neg hcolon]
  | some found =>
    rw [hfind, Option.map_some] at hfirst
    obtain ⟨hcolon, hvalue⟩ := Option.ite_none_right_eq_some.1 hfirst.symm
    rw [Option.bind_some, if_pos hcolon, Option.some.inj hvalue]

end Label

end HostName

end ScanQuery
