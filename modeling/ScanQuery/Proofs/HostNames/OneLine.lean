import ScanQuery.Proofs.HostNames
import ScanQuery.Proofs.HostNames.Extracts
import ScanQuery.Proofs.HostNames.LastWord

/-!
Names on one line. A name is never empty and has no white space around it, and most names cannot
hold a line break: words have no white space, and what stands in quotes or behind a label is cut at
line feeds. There are three ways around this. In a name table an equals sign that is not set off by
a space makes the whole entry the name, over as many lines as its words are on; a label takes all
symbols behind its colon, line feeds among them; and a carriage return within a line is kept.
-/

namespace ScanQuery.HostName

/-- An equals sign that does not stand directly behind a space. -/
def TiedEquals (cs : List Char) : Prop :=
  ∃ front rest, cs = front ++ '=' :: rest ∧ ' ' ∉ front.getLast?

/-- A carriage return in the middle of a line. -/
def ReturnWithinLine (cs : List Char) : Prop :=
  ∃ front c rest, cs = front ++ '\r' :: c :: rest ∧ c ≠ '\n'

/-- Something else than a word behind the first colon, white space aside. -/
def SymbolBehindColon (cs : List Char) : Prop :=
  ∃ c ∈ ((behindColon cs).dropWhile Text.isBlank).head?, Text.isWord c = false

/-- What an output has when its name takes more than one line. -/
inductive MayBreak (output : String) : (pluginId : String) → Prop
  | table {pluginId : String} (hid : pluginId = "10150" ∨ pluginId = "42410")
      (h : TiedEquals output.toList) : MayBreak output pluginId
  | label (h : SymbolBehindColon (compact output)) : MayBreak output "55472"
  | carriageReturn {pluginId : String} (hid : pluginId = "53513" ∨ pluginId = "55472")
      (h : ReturnWithinLine output.toList) : MayBreak output pluginId

variable {output name : String}

/-! ### Carriage returns -/

theorem returnWithinLine_of_line (front rest : List Char) {line init tail : List Char}
    (hline : '\n' ∉ line) (hreturn : line = init ++ '\r' :: tail) (htail : tail ≠ []) :
    ReturnWithinLine (front ++ line ++ rest) := by
  obtain ⟨c, tail, rfl⟩ := List.exists_cons_of_ne_nil htail
  refine ⟨front ++ init, c, tail ++ rest, by simp [hreturn], ?_⟩
  rintro rfl
  exact hline (hreturn ▸ by simp)

/-- A carriage return that trimming leaves stands in front of something. -/
theorem returnWithinLine_of_mem_trimChars (front rest : List Char) {piece more : List Char}
    (hline : '\n' ∉ piece ++ more) (hreturn : '\r' ∈ Text.trimChars piece) :
    ReturnWithinLine (front ++ (piece ++ more) ++ rest) := by
  obtain ⟨pre, post, -, hcore, -, hpiece⟩ := Text.exists_trimChars piece
  obtain ⟨before, behind, hsplit⟩ := List.append_of_mem hreturn
  have hbehind : behind ≠ [] := by
    rintro rfl
    rw [hsplit] at hcore
    exact absurd (hcore.2 '\r' (by simp)) (by decide)
  have hwhole : piece ++ more = pre ++ before ++ '\r' :: (behind ++ (post ++ more)) := by
    rw [hsplit] at hpiece
    rw [hpiece]
    simp only [List.append_assoc, List.cons_append]
  exact returnWithinLine_of_line front rest hline hwhole
    (List.append_ne_nil_of_left_ne_nil hbehind _)

theorem ReturnWithinLine.of_compact (h : ReturnWithinLine (compact output)) :
    ReturnWithinLine output.toList := by
  obtain ⟨front, c, rest, hcompact, hc⟩ := h
  obtain ⟨before, behind, houtput, -, hbehind⟩ := List.filter_eq_append_iff.1 hcompact
  obtain ⟨spaces, tail, rfl, -, -, htail⟩ := List.filter_eq_cons_iff.1 hbehind
  cases tail with
  | nil => exact nomatch htail
  | cons d tail =>
    refine ⟨before ++ spaces, d, tail, by simp [houtput], ?_⟩
    rintro rfl
    rw [List.filter_cons_of_pos (by decide)] at htail
    exact hc (List.cons.inj htail).1.symm

theorem not_mem_restOfLine (cs : List Char) : '\n' ∉ restOfLine cs :=
  fun hmem => absurd (List.mem_takeWhile_imp hmem) (by decide)

/-! ### Name resolution -/

theorem shown_of_ofResolution? (h : ofResolution? output = some name) :
    ∀ c ∈ name.toList, Text.isBlank c = false := by
  obtain ⟨w, hfind, hname⟩ := Option.bind_eq_some_iff.1 h
  obtain ⟨_, rest, -, hfit, -⟩ := exists_of_firstFit hfind
  have hw : w = word rest := by
    unfold lineEndWord? at hfit
    split at hfit
    · exact nomatch hfit
    split at hfit
    · exact (Option.some.inj hfit).symm
    · exact (Option.some.inj (Option.ite_none_right_eq_some.1 hfit).2).symm
  intro c hc
  rw [(name?_eq_some_iff.1 hname).1] at hc
  exact isBlank_of_mem_word (hw ▸ mem_of_mem_dropFinalDot (Text.mem_of_mem_trimChars hc))

/-! ### Name tables -/

/-- Behind spaces in front of an equals sign nothing of an entry belongs to the name. -/
theorem takeWhile_spaced {cs tail words : List Char}
    (hdrop : (afterWord cs).dropWhile (· == ' ') = '=' :: tail) :
    (word cs ++ (afterWord cs).takeWhile (· == ' ') ++ words).takeWhile (· != ' ') = word cs := by
  cases hspaces : (afterWord cs).takeWhile (· == ' ') with
  | nil =>
    have hafter : afterWord cs = '=' :: tail := by
      rw [← List.takeWhile_append_dropWhile (p := (· == ' ')) (l := afterWord cs), hspaces, hdrop,
        List.nil_append]
    have hhead : '=' ∈ (afterWord cs).head? := by
      rw [hafter]
      rfl
    exact absurd (isBlank_of_mem_head?_afterWord hhead) (by decide)
  | cons c spaces =>
    have hmem : c ∈ (afterWord cs).takeWhile (· == ' ') := hspaces ▸ List.mem_cons_self
    have hc : c = ' ' := eq_of_beq (List.mem_takeWhile_imp (p := (· == ' ')) hmem)
    have hshown : ' ' ∉ word cs := fun hmem => absurd (isBlank_of_mem_word hmem) (by decide)
    rw [List.append_assoc, List.cons_append, hc]
    exact Text.takeWhile_append_of_head (Text.bne_of_not_mem hshown) (by simp)

/-- Where every equals sign stands directly behind a space, no entry has one in its first word: it
would begin with that space. -/
theorem not_mem_word_of_entry {front rest words : List Char}
    (htied : ¬ TiedEquals (front ++ rest)) (hwords : twoSpacedWords? (afterWord rest) = some words)
    (hearlier : ∀ init c, front = init ++ [c] → tableEntry? (c :: rest) = none) :
    '=' ∉ word rest := by
  intro hmem
  obtain ⟨start, tail, hword⟩ := List.append_of_mem hmem
  have hrest : rest = start ++ '=' :: (tail ++ afterWord rest) := by
    conv_lhs => rw [← word_append_afterWord rest, hword]
    simp
  have hspace : ' ' ∈ (front ++ start).getLast? := by
    by_contra hnot
    exact htied ⟨front ++ start, tail ++ afterWord rest, by rw [List.append_assoc, ← hrest], hnot⟩
  rcases List.eq_nil_or_concat start with rfl | ⟨init, c, rfl⟩
  · -- the equals sign begins the word, and the entry would have begun with the space before it
    obtain ⟨init, hfront⟩ := List.getLast?_eq_some_iff.1 (by simpa using hspace)
    rw [List.nil_append] at hrest
    have hafter : afterWord rest = afterWord (tail ++ afterWord rest) := by
      conv_lhs => rw [hrest, afterWord_cons_of_shown (by decide)]
    rw [hafter] at hwords
    have hentry := tableEntry?_of_spaced (w := []) (k := 0) (by simp) hwords
    rw [List.nil_append, ← hrest] at hentry
    exact absurd hentry (by simp [hearlier init ' ' hfront])
  · -- the space would be part of the word
    rw [List.concat_eq_append, ← List.append_assoc, List.getLast?_concat] at hspace
    obtain rfl := Option.some.inj hspace
    have hshown : ' ' ∈ word rest := by simp [hword]
    exact absurd (isBlank_of_mem_word hshown) (by decide)

theorem shown_of_ofTable? (htied : ¬ TiedEquals output.toList) (h : ofTable? output = some name) :
    ∀ c ∈ name.toList, Text.isBlank c = false := by
  obtain ⟨entry, hfind, hname⟩ := Option.bind_eq_some_iff.1 h
  obtain ⟨front, rest, hchars, hfit, hearlier⟩ := exists_of_firstFit hfind
  rw [hchars] at htied
  intro c hc
  rw [(name?_eq_some_iff.1 hname).1] at hc
  rcases equals_of_tableEntry? hfit with ⟨tail, words, hdrop, -, rfl⟩ | ⟨words, hmem, hwords, -⟩
  · rw [takeWhile_spaced hdrop] at hc
    exact isBlank_of_mem_word (Text.mem_of_mem_trimChars hc)
  · exact absurd hmem (not_mem_word_of_entry htied hwords hearlier)

/-! ### Quoted names -/

theorem ofQuotes?_line (h : ofQuotes? output = some name) :
    '\n' ∉ name.toList ∧ ('\r' ∈ name.toList → ReturnWithinLine output.toList) := by
  obtain ⟨quoted, hfind, hname⟩ := Option.bind_eq_some_iff.1 h
  obtain ⟨front, rest, hchars, hfit, -⟩ := exists_of_firstFit hfind
  obtain ⟨tail, rfl, hmem, rfl⟩ := exists_of_quoted? hfit
  obtain ⟨init, post, hline, hquoted⟩ := Text.exists_dropEndWhile_of_mark hmem
  have hinit : ∀ c ∈ name.toList, c ≠ '\'' → c ∈ init := by
    intro c hc hne
    rw [(name?_eq_some_iff.1 hname).1, hquoted] at hc
    have hc' := (List.mem_filter.1 (Text.mem_of_mem_trimChars hc)).1
    simpa [hne] using hc'
  constructor
  · intro hfeed
    refine not_mem_restOfLine tail ?_
    rw [hline]
    exact List.mem_append_left _ (hinit '\n' hfeed (by decide))
  · intro hreturn
    obtain ⟨before, behind, hsplit⟩ := List.append_of_mem (hinit '\r' hreturn (by decide))
    have hwithin := returnWithinLine_of_line (front ++ ['\''])
      (tail.dropWhile (· != '\n')) (not_mem_restOfLine tail)
      (by rw [hline, hsplit, List.append_assoc, List.cons_append])
      (List.append_ne_nil_of_right_ne_nil behind (List.cons_ne_nil '\'' post))
    rwa [List.append_assoc, restOfLine, List.takeWhile_append_dropWhile, List.append_assoc,
      List.singleton_append, ← hchars] at hwithin

/-! ### Labelled names -/

theorem ofLabel?_line (hsymbol : ¬ SymbolBehindColon (compact output))
    (h : ofLabel? output = some name) :
    '\n' ∉ name.toList ∧ ('\r' ∈ name.toList → ReturnWithinLine output.toList) := by
  rw [ofLabel?_eq] at h
  obtain ⟨-, hname⟩ := Option.ite_none_right_eq_some.1 h
  obtain ⟨front, hfront⟩ := behindColon_suffix (compact output)
  obtain ⟨blanks, hblanks, hbehind, -⟩ := Text.exists_dropWhile (behindColon (compact output))
  have hword : ∀ c ∈ ((behindColon (compact output)).dropWhile Text.isBlank).head?,
      Text.isWord c = true := by
    intro c hc
    by_contra hnot
    exact hsymbol ⟨c, hc, Bool.eq_false_of_not_eq_true hnot⟩
  have hcolon : ':' ∉ blanks := fun hmem => absurd (hblanks ':' hmem) (by decide)
  -- the symbols behind the colon are white space, which trimming takes off
  generalize (behindColon (compact output)).dropWhile Text.isBlank = cs at hbehind hword
  have hchars : name.toList = Text.trimChars (toColon (restOfLine cs)) := by
    rw [(name?_eq_some_iff.1 hname).1, hbehind,
      labelValue_append (fun c hc => Text.isWord_of_isBlank (hblanks c hc)) hword, toColon,
      List.takeWhile_append_of_pos (Text.bne_of_not_mem hcolon),
      Text.trimChars_blank_append hblanks, toColon]
  constructor
  · intro hfeed
    rw [hchars] at hfeed
    exact not_mem_restOfLine cs ((List.takeWhile_prefix _).subset (Text.mem_of_mem_trimChars hfeed))
  · intro hreturn
    rw [hchars] at hreturn
    have hpiece : toColon (restOfLine cs) ++ (restOfLine cs).dropWhile (· != ':') =
        restOfLine cs := List.takeWhile_append_dropWhile
    have hwithin := returnWithinLine_of_mem_trimChars (front ++ blanks)
      (cs.dropWhile (· != '\n')) (hpiece ▸ not_mem_restOfLine cs) hreturn
    rw [hpiece, List.append_assoc, restOfLine, List.takeWhile_append_dropWhile, List.append_assoc,
      ← hbehind, hfront] at hwithin
    exact hwithin.of_compact

/-! ### The name of a host -/

theorem exists_of_ofOutput? {pluginId : String} (h : ofOutput? pluginId output = some name) :
    ∃ cs, name.toList = Text.trimChars cs ∧ name ≠ "" := by
  have hread : ∃ cs, name? cs = some name := by
    rcases ofOutput?_eq_some_iff.1 h with ⟨-, h⟩ | ⟨-, h⟩ | ⟨-, h⟩ | ⟨-, h⟩
    all_goals
      obtain ⟨_, -, hname⟩ := Option.bind_eq_some_iff.1 h
      exact ⟨_, hname⟩
  obtain ⟨cs, hname⟩ := hread
  exact ⟨cs, name?_eq_some_iff.1 hname⟩

/-- A name with a line break comes from an output that has what it takes. -/
theorem mayBreak_of_ofOutput? {pluginId : String} (h : ofOutput? pluginId output = some name)
    (hbreak : '\n' ∈ name.toList ∨ '\r' ∈ name.toList) : MayBreak output pluginId := by
  have hblank : ∃ c ∈ name.toList, Text.isBlank c = true := by
    rcases hbreak with hmem | hmem
    · exact ⟨'\n', hmem, by decide⟩
    · exact ⟨'\r', hmem, by decide⟩
  obtain ⟨c, hc, hc'⟩ := hblank
  rcases ofOutput?_eq_some_iff.1 h with ⟨-, h⟩ | ⟨hid, h⟩ | ⟨rfl, h⟩ | ⟨rfl, h⟩
  · exact absurd (shown_of_ofResolution? h c hc) (by simp [hc'])
  · by_contra hnot
    have hshown := shown_of_ofTable? (fun htied => hnot (.table hid htied)) h c hc
    exact absurd hshown (by simp [hc'])
  · obtain ⟨hfeed, hreturn⟩ := ofQuotes?_line h
    exact .carriageReturn (.inl rfl) (hreturn (hbreak.resolve_left hfeed))
  · by_cases hsymbol : SymbolBehindColon (compact output)
    · exact .label hsymbol
    · obtain ⟨hfeed, hreturn⟩ := ofLabel?_line hsymbol h
      exact .carriageReturn (.inr rfl) (hreturn (hbreak.resolve_left hfeed))

/-- A name is not empty and has no white space around it, and it has no line break unless it comes
from a name table with an equals sign that does not stand directly behind a space, from a label with
a symbol behind its colon, or from quotes or a label in an output with a carriage return in the
middle of a line. -/
theorem name_fits_on_line {h : Host} (hname : resolve? h = some name) :
    name ≠ "" ∧ Text.trim name = name ∧
      ('\n' ∈ name.toList ∨ '\r' ∈ name.toList →
        ∃ f ∈ h.located.map (·.2), ∃ output, f.output = some output ∧
          ofOutput? f.pluginId output = some name ∧ MayBreak output f.pluginId) := by
  obtain ⟨f, hf, hfinding⟩ := exists_of_resolve? hname
  obtain ⟨output, houtput, hofOutput⟩ := Option.bind_eq_some_iff.1 hfinding
  obtain ⟨cs, hchars, hne⟩ := exists_of_ofOutput? hofOutput
  have htrimmed : Text.Trimmed name.toList := by
    rw [hchars]
    exact Text.trimmed_trimChars cs
  refine ⟨hne, Text.trim_of_trimmed htrimmed, fun hbreak => ?_⟩
  exact ⟨f, hf, output, houtput, hofOutput, mayBreak_of_ofOutput? hofOutput hbreak⟩

/-- A host with one finding. -/
def hostWith (pluginId output : String) : Host :=
  (Host.new "10.0.0.5" none).addFinding "445/tcp" ⟨pluginId, "", "0", "", some output⟩

/-- A name over three lines is neither empty nor to be trimmed, and its finding shows why it is not
on one line. -/
theorem spread_name_may_break :
    resolve? (hostWith "42410" "A=b\nc\nd") = some "A=b\nc\nd" ∧
      "A=b\nc\nd" ≠ "" ∧ Text.trim "A=b\nc\nd" = "A=b\nc\nd" ∧
      ∃ f ∈ (hostWith "42410" "A=b\nc\nd").located.map (·.2), ∃ output, f.output = some output ∧
        MayBreak output f.pluginId := by
  have hname : resolve? (hostWith "42410" "A=b\nc\nd") = some "A=b\nc\nd" := by decide +kernel
  obtain ⟨hne, htrim, hbreak⟩ := name_fits_on_line hname
  obtain ⟨f, hf, output, houtput, -, hmay⟩ := hbreak (.inl (by simp))
  exact ⟨hname, hne, htrim, f, hf, output, houtput, hmay⟩

/-- Line feeds in names from a name table and from a label. -/
theorem name_spans_lines :
    resolve? (hostWith "10150" "Domain=CORP\nOS=Windows\nServer=Samba") =
        some "Domain=CORP\nOS=Windows\nServer=Samba" ∧
      resolve? (hostWith "42410" "Domain=CORP\nOS=Windows\nServer=Samba") =
        some "Domain=CORP\nOS=Windows\nServer=Samba" ∧
      resolve? (hostWith "55472" "Hostname:-\nA") = some "-\nA" := by
  decide +kernel

end ScanQuery.HostName
