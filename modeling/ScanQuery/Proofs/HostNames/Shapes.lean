import ScanQuery.Proofs.HostNames.Extracts
import ScanQuery.Proofs.HostNames.LastWord

/-!
Outputs of the documented shapes. Each reader gives back the name that an output of its shape
discloses: it fits nowhere in the text in front of the name, and what it takes ends with the name.
-/

namespace ScanQuery.HostName

/-- A text that is one word. -/
structure IsWord (s : String) : Prop where
  ne_empty : s ≠ ""
  shown : ∀ c ∈ s.toList, Text.isBlank c = false

/-- The outputs that disclose a name, in the shape that belongs to the plugin. -/
inductive Discloses (name : String) : (pluginId output : String) → Prop
  | resolution {before : String} {i j : Nat} (hbefore : '\n' ∉ before.toList) :
      Discloses name "12053"
        (String.replicate i '\n' ++ before ++ " " ++ name ++ "." ++ String.replicate j '\n')
  | table {pluginId before first second rest : String} {k : Nat}
      (hid : pluginId = "10150" ∨ pluginId = "42410") (hname : '=' ∉ name.toList)
      (hbefore : '=' ∉ before.toList)
      (hend : ∀ c ∈ before.toList.getLast?, Text.isBlank c = true) (hk : 0 < k)
      (hfirst : IsWord first) (hsecond : IsWord second)
      (hrest : ∀ c ∈ rest.toList.head?, Text.isBlank c = true) :
      Discloses name pluginId
        (before ++ name ++ String.replicate k ' ' ++ "= " ++ first ++ " " ++ second ++ rest)
  | quotes {before rest : String} (hname : '\'' ∉ name.toList) (hbefore : '\'' ∉ before.toList)
      (hrest : '\'' ∉ restOfLine rest.toList) :
      Discloses name "53513" (before ++ "'" ++ name ++ "'" ++ rest)
  | label {before rest : String} {i j : Nat} (hname : ':' ∉ name.toList)
      (hhead : ∀ c ∈ name.toList.head?, c.isAlphanum = true)
      (hbefore : ∀ c ∈ before.toList, c = ' ' ∨ c = '\n')
      (hrest : ∀ c ∈ rest.toList.head?, c = '\n') :
      Discloses name "55472"
        (before ++ "Hostname" ++ String.replicate i ' ' ++ ":" ++ String.replicate j ' ' ++ name ++
          rest)

theorem IsWord.toList_ne_nil {s : String} (h : IsWord s) : s.toList ≠ [] :=
  fun hnil => h.ne_empty (String.toList_eq_nil_iff.1 hnil)

theorem IsWord.name?_eq {s : String} (h : IsWord s) : name? s.toList = some s := by
  rw [name?_of_shown h.shown h.toList_ne_nil, String.ofList_toList]

theorem IsWord.not_mem {s : String} (h : IsWord s) {c : Char} (hc : Text.isBlank c = true) :
    c ∉ s.toList := by
  intro hmem
  rw [h.shown c hmem] at hc
  exact Bool.false_ne_true hc

variable {name before rest : String}

/-! ### Name resolution -/

theorem firstFit_lineEndWord?_replicate (n : Nat) (rest : List Char) :
    firstFit lineEndWord? (List.replicate n '\n' ++ rest) = firstFit lineEndWord? rest := by
  induction n with
  | zero => rfl
  | succ n ih =>
    rw [List.replicate_succ, List.cons_append, firstFit_lineEndWord?_feed, ih]

theorem ofResolution?_of_shape (hname : IsWord name) (hbefore : '\n' ∉ before.toList) (i j : Nat) :
    ofResolution?
      (String.replicate i '\n' ++ before ++ " " ++ name ++ "." ++ String.replicate j '\n') =
        some name := by
  have hfront : ∀ c ∈ (before.toList ++ [' ']).getLast?, Text.isBlank c = true := by
    simp [Text.isBlank]
  have hfeed : '\n' ∉ before.toList ++ [' '] :=
    List.not_mem_append hbefore (by decide)
  have hword : ∀ c ∈ name.toList ++ ['.'], Text.isBlank c = false :=
    List.forall_mem_append.2 ⟨hname.shown, by simp [Text.isBlank]⟩
  have hlast : ∀ c ∈ (List.replicate i '\n' ++ ((before.toList ++ [' ']) ++
      (name.toList ++ ['.']))).getLast?, (c == '\n') = false := by
    rw [← List.append_assoc, ← List.append_assoc, List.getLast?_concat]
    simp
  have hfeeds : ∀ c ∈ List.replicate j '\n', (c == '\n') = true := by simp
  have houtput : (String.replicate i '\n' ++ before ++ " " ++ name ++ "." ++
      String.replicate j '\n').toList = (List.replicate i '\n' ++ ((before.toList ++ [' ']) ++
        (name.toList ++ ['.']))) ++ List.replicate j '\n' := by
    simp [String.replicate]
  have hfind : firstFit lineEndWord? (name.toList ++ ['.']) = some (name.toList ++ ['.']) := by
    conv_lhs => rw [← List.append_nil (name.toList ++ ['.'])]
    exact firstFit_of_fit (lineEndWord?_of_word hword (by simp) (by simp))
  have hdrop : dropFinalDot (name.toList ++ ['.']) = name.toList := by simp [dropFinalDot]
  rw [ofResolution?, houtput, Text.dropEndWhile_append hlast hfeeds,
    firstFit_lineEndWord?_replicate, firstFit_lineEndWord?_append hfront hfeed, hfind,
    Option.bind_some, hdrop, hname.name?_eq]

/-! ### Name tables -/

theorem twoSpacedWords?_of_words {first second rest : List Char}
    (hfirst : ∀ c ∈ first, Text.isBlank c = false) (hne : first ≠ [])
    (hsecond : ∀ c ∈ second, Text.isBlank c = false) (hne' : second ≠ [])
    (hrest : ∀ c ∈ rest.head?, Text.isBlank c = true) :
    twoSpacedWords? (' ' :: (first ++ ' ' :: (second ++ rest))) =
      some (' ' :: first ++ ' ' :: second) := by
  have hspace : ∀ c ∈ (' ' :: (second ++ rest)).head?, Text.isBlank c = true := by
    simp [Text.isBlank]
  rw [twoSpacedWords?, spacedWord?_of_word rfl hfirst hne hspace]
  change (spacedWord? (' ' :: (second ++ rest))).bind _ = _
  rw [spacedWord?_of_word rfl hsecond hne' hrest]
  rfl

/-- No entry begins in a text without equals sign that ends in white space, unless an equals sign
or a space follows. -/
theorem tableEntry?_append_of_blank {front rest : List Char} (hne : front ≠ [])
    (hend : ∀ c ∈ front.getLast?, Text.isBlank c = true) (hfront : '=' ∉ front)
    (hrest : ∀ c ∈ rest.head?, c ≠ '=' ∧ c ≠ ' ') : tableEntry? (front ++ rest) = none := by
  obtain ⟨d, hd⟩ := Option.isSome_iff_exists.1 (List.getLast?_isSome.2 hne)
  have hmem : d ∈ front := List.mem_of_getLast? hd
  have hblank : Text.isBlank d = true := hend d hd
  cases hentry : tableEntry? (front ++ rest) with
  | none => rfl
  | some entry =>
    rcases equals_of_tableEntry? hentry with ⟨tail, words, hdrop, -, -⟩ | ⟨words, hequals, -, -⟩
    · rw [afterWord_append_of_mem hmem hblank] at hdrop
      -- the equals sign would have to come right behind the front or stand in it
      by_cases hspaces : ∀ c ∈ afterWord front, (c == ' ') = true
      · have hhead : ∀ c ∈ rest.head?, (c == ' ') = false :=
          fun c hc => by simpa using (hrest c hc).2
        rw [Text.dropWhile_append_of_head hspaces hhead] at hdrop
        exact absurd rfl (hrest '=' (by rw [hdrop]; rfl)).1
      · push Not at hspaces
        obtain ⟨c, hc, hshown⟩ := hspaces
        rw [Text.dropWhile_append_of_mem hc (by simpa using hshown)] at hdrop
        have hafter : (afterWord front).dropWhile (· == ' ') ≠ [] :=
          fun hnil => hshown (List.dropWhile_eq_nil_iff.1 hnil c hc)
        have hequals : '=' ∈ ((afterWord front).dropWhile (· == ' ')).head? := by
          rw [← List.head?_append_of_ne_nil _ hafter, hdrop]
          rfl
        exact absurd (mem_of_mem_afterWord
          ((List.dropWhile_suffix _).subset (List.mem_of_mem_head? hequals))) hfront
    · rw [word_append_of_mem hmem hblank] at hequals
      exact absurd ((List.takeWhile_prefix _).subset hequals) hfront

theorem firstFit_tableEntry?_append {front rest : List Char}
    (hend : ∀ c ∈ front.getLast?, Text.isBlank c = true) (hfront : '=' ∉ front)
    (hrest : ∀ c ∈ rest.head?, c ≠ '=' ∧ c ≠ ' ') :
    firstFit tableEntry? (front ++ rest) = firstFit tableEntry? rest := by
  refine firstFit_append_of_none rest fun suffix hne hsuffix => ?_
  obtain ⟨init, rfl⟩ := hsuffix
  refine tableEntry?_append_of_blank hne (fun c hc => hend c ?_)
    (fun hmem => hfront (List.mem_append_right init hmem)) hrest
  rw [List.getLast?_append_of_ne_nil init hne]
  exact hc

theorem ofTable?_of_shape {first second : String} {k : Nat} (hname : IsWord name)
    (hequals : '=' ∉ name.toList) (hbefore : '=' ∉ before.toList)
    (hend : ∀ c ∈ before.toList.getLast?, Text.isBlank c = true) (hk : 0 < k)
    (hfirst : IsWord first) (hsecond : IsWord second)
    (hrest : ∀ c ∈ rest.toList.head?, Text.isBlank c = true) :
    ofTable?
      (before ++ name ++ String.replicate k ' ' ++ "= " ++ first ++ " " ++ second ++ rest) =
        some name := by
  obtain ⟨k, rfl⟩ := Nat.exists_eq_succ_of_ne_zero hk.ne'
  have hwords : twoSpacedWords?
      (afterWord (' ' :: (first.toList ++ ' ' :: (second.toList ++ rest.toList)))) =
        some (' ' :: first.toList ++ ' ' :: second.toList) := by
    rw [afterWord_cons_of_blank (by decide)]
    exact twoSpacedWords?_of_words hfirst.shown hfirst.toList_ne_nil hsecond.shown
      hsecond.toList_ne_nil hrest
  have hentry := firstFit_of_fit (tableEntry?_of_spaced (k := k) hname.shown hwords)
  have houtput : (before ++ name ++ String.replicate (k + 1) ' ' ++ "= " ++ first ++ " " ++
      second ++ rest).toList = before.toList ++ (name.toList ++ List.replicate (k + 1) ' ' ++
        '=' :: ' ' :: (first.toList ++ ' ' :: (second.toList ++ rest.toList))) := by
    simp [String.replicate]
  have hspace : ' ' ∉ name.toList := hname.not_mem (by decide)
  have hhead : ∀ c ∈ (name.toList ++ List.replicate (k + 1) ' ' ++
      '=' :: ' ' :: (first.toList ++ ' ' :: (second.toList ++ rest.toList))).head?,
        c ≠ '=' ∧ c ≠ ' ' := by
    intro c hc
    rw [List.append_assoc, List.head?_append_of_ne_nil _ hname.toList_ne_nil] at hc
    have hmem := List.mem_of_mem_head? hc
    exact ⟨fun h => hequals (h ▸ hmem), fun h => hspace (h ▸ hmem)⟩
  rw [ofTable?, houtput, firstFit_tableEntry?_append hend hbefore hhead, hentry, Option.bind_some,
    List.append_assoc, List.replicate_succ, List.cons_append,
    Text.takeWhile_append_of_head (Text.bne_of_not_mem hspace) (by simp), hname.name?_eq]

/-! ### Quoted names -/

theorem ofQuotes?_of_shape (hname : IsWord name) (hquote : '\'' ∉ name.toList)
    (hbefore : '\'' ∉ before.toList) (hrest : '\'' ∉ restOfLine rest.toList) :
    ofQuotes? (before ++ "'" ++ name ++ "'" ++ rest) = some name := by
  have hshown : ∀ c ∈ name.toList ++ ['\''], (c != '\n') = true :=
    List.forall_mem_append.2
      ⟨Text.bne_of_not_mem (hname.not_mem (by decide)), by simp⟩
  have hline : restOfLine (name.toList ++ '\'' :: rest.toList) =
      name.toList ++ ['\''] ++ restOfLine rest.toList := by
    rw [List.append_cons, restOfLine, List.takeWhile_append_of_pos hshown, restOfLine]
  have hlast : ∀ c ∈ (name.toList ++ ['\'']).getLast?, (c != '\'') = false := by
    rw [List.getLast?_concat]
    simp
  have hquoted : quoted? ('\'' :: (name.toList ++ '\'' :: rest.toList)) =
      some (name.toList ++ ['\'']) := by
    simp only [quoted?, hline, Text.dropEndWhile_append hlast (Text.bne_of_not_mem hrest)]
    exact if_pos (by simp)
  have hfilter : (name.toList ++ ['\'']).filter (· != '\'') = name.toList := by
    rw [List.filter_append, List.filter_eq_self.2 (Text.bne_of_not_mem hquote)]
    simp
  have houtput : (before ++ "'" ++ name ++ "'" ++ rest).toList =
      before.toList ++ '\'' :: (name.toList ++ '\'' :: rest.toList) := by
    simp
  have hfind : firstFit quoted? (before ++ "'" ++ name ++ "'" ++ rest).toList =
      some (name.toList ++ ['\'']) := by
    rw [houtput, firstFit_append_of_none, firstFit_of_fit hquoted]
    intro suffix hne hsuffix
    refine quoted?_of_not_quote fun hmem => hbefore (hsuffix.subset ?_)
    rw [List.head?_append_of_ne_nil _ hne] at hmem
    exact List.mem_of_mem_head? hmem
  rw [ofQuotes?, hfind, Option.bind_some, hfilter, hname.name?_eq]

/-! ### Labelled names -/

theorem ofLabel?_of_shape (hname : IsWord name) (hcolon : ':' ∉ name.toList)
    (hhead : ∀ c ∈ name.toList.head?, c.isAlphanum = true)
    (hbefore : ∀ c ∈ before.toList, c = ' ' ∨ c = '\n')
    (hrest : ∀ c ∈ rest.toList.head?, c = '\n') (i j : Nat) :
    ofLabel? (before ++ "Hostname" ++ String.replicate i ' ' ++ ":" ++ String.replicate j ' ' ++
      name ++ rest) = some name := by
  have hspaces : ∀ k, compact (String.replicate k ' ') = [] := by
    intro k
    simp [compact, String.replicate]
  have hname' : compact name = name.toList :=
    List.filter_eq_self.2 (Text.bne_of_not_mem (hname.not_mem (by decide)))
  have hfront : ':' ∉ compact before ++ "Hostname".toList := by
    refine List.not_mem_append (fun hmem => ?_) (by decide)
    rcases hbefore ':' (List.mem_filter.1 hmem).1 with h | h <;> exact absurd h (by decide)
  have hcompact : compact (before ++ "Hostname" ++ String.replicate i ' ' ++ ":" ++
      String.replicate j ' ' ++ name ++ rest) =
        (compact before ++ "Hostname".toList) ++ ':' :: (name.toList ++ compact rest) := by
    have hlabel : compact "Hostname" = "Hostname".toList := by decide
    have hcolon : compact ":" = [':'] := by decide
    simp only [compact_append, hspaces, hname', hlabel, hcolon, List.append_nil, List.append_assoc,
      List.cons_append, List.nil_append]
  have hrest' : ∀ c ∈ (compact rest).head?, c = '\n' := by
    rw [compact]
    cases hchars : rest.toList with
    | nil => simp
    | cons d ds =>
      obtain rfl : d = '\n' := hrest d (by rw [hchars]; rfl)
      simp
  have hhead' : ∀ c ∈ (name.toList ++ compact rest).head?, Text.isWord c = true := by
    intro c hc
    rw [List.head?_append_of_ne_nil _ hname.toList_ne_nil] at hc
    exact Text.isWord_of_isAlphanum (hhead c hc)
  have hvalue : labelValue (name.toList ++ compact rest) = name.toList := by
    rw [← List.nil_append (name.toList ++ compact rest), labelValue_append (by simp) hhead',
      List.nil_append, restOfLine]
    exact Text.takeWhile_append_of_head (Text.bne_of_not_mem (hname.not_mem (by decide)))
      fun c hc => by rw [hrest' c hc]; rfl
  have hto : toColon name.toList = name.toList :=
    List.takeWhile_eq_self_iff.2 (Text.bne_of_not_mem hcolon)
  rw [ofLabel?_eq, hcompact, if_pos (by simp), behindColon_append hfront, hvalue, hto,
    hname.name?_eq]

/-! ### Every shape -/

/-- An output of a documented shape gives back the name that it discloses. -/
theorem ofOutput?_of_discloses {pluginId output : String} (hname : IsWord name)
    (h : Discloses name pluginId output) : ofOutput? pluginId output = some name := by
  rw [ofOutput?_eq_some_iff]
  cases h with
  | resolution hbefore => exact .inl ⟨rfl, ofResolution?_of_shape hname hbefore _ _⟩
  | table hid hequals hbefore hend hk hfirst hsecond hrest =>
    exact .inr (.inl
      ⟨hid, ofTable?_of_shape hname hequals hbefore hend hk hfirst hsecond hrest⟩)
  | quotes hquote hbefore hrest =>
    exact .inr (.inr (.inl ⟨rfl, ofQuotes?_of_shape hname hquote hbefore hrest⟩))
  | label hcolon hhead hbefore hrest =>
    exact .inr (.inr (.inr ⟨rfl, ofLabel?_of_shape hname hcolon hhead hbefore hrest _ _⟩))

/-- An output of each shape. -/
theorem outputs_give_names :
    ofOutput? "12053" (String.replicate 1 '\n' ++ "10.0.16.20 resolves as" ++ " " ++
        "SERVER.contoso.com" ++ "." ++ String.replicate 1 '\n') = some "SERVER.contoso.com" ∧
      ofOutput? "10150" ("NetBIOS names :\n\n  " ++ "FILESRV01" ++ String.replicate 8 ' ' ++ "= " ++
        "Computer" ++ " " ++ "name" ++ "\n  CONTOSO  = Workgroup / Domain name\n") =
          some "FILESRV01" ∧
      ofOutput? "53513" ("the name of the remote host is " ++ "'" ++ "WKS042" ++ "'" ++ ".") =
        some "WKS042" ∧
      ofOutput? "55472" ("\n  " ++ "Hostname" ++ String.replicate 1 ' ' ++ ":" ++
        String.replicate 1 ' ' ++ "PRINTER7" ++ "\n  PRINTER7 (WMI)\n") = some "PRINTER7" := by
  have hserver : IsWord "SERVER.contoso.com" := ⟨by simp, by simp [Text.isBlank]⟩
  have hfile : IsWord "FILESRV01" := ⟨by simp, by simp [Text.isBlank]⟩
  have hcomputer : IsWord "Computer" := ⟨by simp, by simp [Text.isBlank]⟩
  have hlabel : IsWord "name" := ⟨by simp, by simp [Text.isBlank]⟩
  have hstation : IsWord "WKS042" := ⟨by simp, by simp [Text.isBlank]⟩
  have hprinter : IsWord "PRINTER7" := ⟨by simp, by simp [Text.isBlank]⟩
  exact ⟨ofOutput?_of_discloses hserver (.resolution (by simp)),
    ofOutput?_of_discloses hfile (.table (.inl rfl) (by simp) (by simp) (by simp [Text.isBlank])
      (by simp) hcomputer hlabel (by simp [Text.isBlank])),
    ofOutput?_of_discloses hstation (.quotes (by simp) (by simp) (by simp [restOfLine])),
    ofOutput?_of_discloses hprinter
      (.label (by simp) (by simp [Char.isAlphanum]) (by simp) (by simp))⟩

end ScanQuery.HostName
