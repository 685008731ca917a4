import ScanQuery.Json.Reader
import ScanQuery.Proofs.Json.Grammar
import ScanQuery.Proofs.Text.Runs

/-!
Every JSON text is read as its value, so a text has one value only and both layouts of a value are
read back as that value.

A reader is shown to stop where the part that it reads ends, whatever follows. Only a number needs
to know what does: it must not go on there. The induction is on the fuel of the readers of values,
elements and fields together, and the length of a text bounds the fuel that reading it takes.
-/

namespace ScanQuery.Json

/-! ### White space -/

theorem isSpace_iff {c : Char} : isSpace c = true ↔ c ∈ [' ', '\t', '\n', '\r'] := by
  simp [isSpace, or_assoc]

theorem skipSpace_append {spaces : List Char} (h : Spaces spaces) (rest : List Char) :
    skipSpace (spaces ++ rest) = skipSpace rest :=
  List.dropWhile_append_of_pos fun c hc => isSpace_iff.2 (h c hc)

theorem skipSpace_skipSpace (cs : List Char) : skipSpace (skipSpace cs) = skipSpace cs :=
  List.dropWhile_idempotent isSpace cs

/-- White space in front of a value does not count. -/
theorem valueRest?_skipSpace (fuel : Nat) (cs : List Char) :
    valueRest? fuel (skipSpace cs) = valueRest? fuel cs := by
  cases fuel with
  | zero => rw [valueRest?, valueRest?]
  | succ fuel => rw [valueRest?, valueRest?, skipSpace_skipSpace]

theorem elementsRest?_skipSpace (fuel : Nat) (cs : List Char) :
    elementsRest? fuel (skipSpace cs) = elementsRest? fuel cs := by
  cases fuel with
  | zero => rw [elementsRest?, elementsRest?]
  | succ fuel => rw [elementsRest?, elementsRest?, valueRest?_skipSpace]

theorem fieldsRest?_skipSpace (fuel : Nat) (cs : List Char) :
    fieldsRest? fuel (skipSpace cs) = fieldsRest? fuel cs := by
  cases fuel with
  | zero => rw [fieldsRest?, fieldsRest?]
  | succ fuel => rw [fieldsRest?, fieldsRest?, skipSpace_skipSpace]

/-! ### Strings -/

theorem hexValue?_eq_of_hexDigit {c : Char} {n : Nat} (h : HexDigit c n) :
    hexValue? c = some n := by
  obtain ⟨hn, rfl | rfl⟩ := h
  · revert n
    decide
  · revert n
    decide

theorem hexNumber?_eq_of_hexQuad {digits : List Char} {n : Nat} (h : HexQuad digits n) :
    hexNumber? digits = some n := by
  cases h with
  | mk ha hb hc hd =>
    simp [hexNumber?, hexValue?_eq_of_hexDigit ha, hexValue?_eq_of_hexDigit hb,
      hexValue?_eq_of_hexDigit hc, hexValue?_eq_of_hexDigit hd]

theorem escaped?_of_mem_shortEscapes : ∀ e ∈ shortEscapes, e.1 ≠ 'u' ∧ escaped? e.1 = some e.2 := by
  decide

/-- The code of a character is not that of a surrogate. -/
theorem not_surrogate (c : Char) : ¬ (0xD800 ≤ c.toNat ∧ c.toNat < 0xE000) := by
  rcases c.valid with h | ⟨h, -⟩
  · exact fun hs => absurd h (Nat.not_lt.2 hs.1)
  · exact fun hs => absurd h (Nat.not_lt.2 (Nat.le_of_lt_succ hs.2))

theorem HexQuad.exists_digits {digits : List Char} {n : Nat} (h : HexQuad digits n) :
    ∃ a b c d, digits = [a, b, c, d] := by
  cases h
  exact ⟨_, _, _, _, rfl⟩

/-- A character is read from its text, whatever follows. -/
theorem stringRest?_append_of_charText {text : List Char} {c : Char} (h : CharText text c)
    (rest : List Char) :
    stringRest? (text ++ rest) = (stringRest? rest).map fun (cs, r) => (c :: cs, r) := by
  cases h with
  | plain hquote hbackslash hvisible =>
    rw [List.singleton_append, stringRest?.eq_def]
    split <;> simp_all
  | @short letter c h =>
    obtain ⟨hu, hescaped⟩ := escaped?_of_mem_shortEscapes _ h
    rw [List.cons_append, List.singleton_append, stringRest?, hescaped]
    exact fun _ _ _ _ _ hletter => absurd hletter hu
  | @code _ c h =>
    have hread := hexNumber?_eq_of_hexQuad h
    obtain ⟨_, _, _, _, rfl⟩ := h.exists_digits
    have hnot := not_surrogate c
    simp only [List.cons_append, List.nil_append, stringRest?, hread]
    rw [if_neg (by omega), if_neg (by omega), Char.ofNat_toNat]
  | surrogates hhigh hlow hm hn hc =>
    have hreadHigh := hexNumber?_eq_of_hexQuad hhigh
    have hreadLow := hexNumber?_eq_of_hexQuad hlow
    obtain ⟨a, b, c, d, rfl⟩ := hhigh.exists_digits
    obtain ⟨e, f, g, h, rfl⟩ := hlow.exists_digits
    simp only [List.cons_append, List.nil_append, stringRest?, hreadHigh, hreadLow]
    rw [if_pos (by omega), if_pos (by omega), Nat.add_sub_cancel_left, Nat.add_sub_cancel_left,
      ← hc, Char.ofNat_toNat]

/-- A string is read up to the quote behind its text. -/
theorem stringRest?_append_quote {text cs : List Char} (h : CharsText text cs)
    (rest : List Char) : stringRest? (text ++ '"' :: rest) = some (cs, rest) := by
  induction h with
  | nil => rfl
  | cons hc _ ih => rw [List.append_assoc, stringRest?_append_of_charText hc, ih, Option.map_some]

/-! ### Numbers -/

/-- No number goes on with the text. -/
def EndsNumber (rest : List Char) : Prop :=
  ∀ c ∈ rest.head?, c.isDigit = false ∧ c ∉ ['.', 'e', 'E']

theorem endsNumber_cons {c : Char} (h : c ∈ [' ', '\t', '\n', '\r', ',', ']', '\x7d'])
    (rest : List Char) : EndsNumber (c :: rest) := by
  have hends : ∀ d ∈ [' ', '\t', '\n', '\r', ',', ']', '\x7d'],
      d.isDigit = false ∧ d ∉ ['.', 'e', 'E'] := by simp
  rintro d ⟨⟩
  exact hends c h

theorem EndsNumber.spaces_append {spaces rest : List Char} (hspaces : Spaces spaces)
    (h : EndsNumber rest) : EndsNumber (spaces ++ rest) := by
  cases spaces with
  | nil => exact h
  | cons c spaces =>
    exact endsNumber_cons (List.mem_append_left [',', ']', '\x7d'] (hspaces c List.mem_cons_self)) _

/-- The digits of a number are read together, and nothing behind them. -/
theorem PlainDigits.runs {cs rest : List Char} (h : PlainDigits cs) (hrest : EndsNumber rest) :
    (cs ++ rest).takeWhile Char.isDigit = cs ∧ (cs ++ rest).dropWhile Char.isDigit = rest :=
  ⟨Text.takeWhile_append_of_head h.digits.2 fun c hc => (hrest c hc).1,
    Text.dropWhile_append_of_head h.digits.2 fun c hc => (hrest c hc).1⟩

theorem PlainDigits.not_tooLong {cs : List Char} (h : PlainDigits cs) :
    (decide (cs.length > 1) && cs.head? == some '0') = false := by
  rw [Bool.and_eq_false_imp, decide_eq_true_eq, beq_eq_false_iff_ne]
  exact h.head_ne_zero

theorem PlainDigits.natural? {cs : List Char} (h : PlainDigits cs) :
    Text.natural? cs = some (Text.placeValue cs) :=
  Text.natural?_eq_some_iff.2 ⟨h.digits, rfl⟩

theorem numberRest?_append {cs rest : List Char} {n : Int} (h : NumberText cs n)
    (hrest : EndsNumber rest) : numberRest? (cs ++ rest) = some (n, rest) := by
  have hstops : ∀ {c tail}, rest = c :: tail → c ≠ '.' ∧ c ≠ 'e' ∧ c ≠ 'E' := by
    rintro c tail rfl
    simpa using (hrest c rfl).2
  cases h with
  | natural h =>
    obtain ⟨htake, hdrop⟩ := h.runs hrest
    unfold numberRest?
    -- the sign is looked for first, and no digit is one
    split
    next negative body hsign =>
      split at hsign
      · next hminus =>
        obtain ⟨c, digits, rfl⟩ := List.exists_cons_of_ne_nil h.digits.1
        exact absurd (List.cons.inj hminus).1 h.digits.ne_sign.2
      · obtain ⟨rfl, rfl⟩ := Prod.mk.inj hsign
        simp only [htake, hdrop, h.not_tooLong, h.natural?]
        cases rest with
        | nil => rfl
        | cons d tail => simp [hstops rfl]
  | negative h =>
    obtain ⟨htake, hdrop⟩ := h.runs hrest
    simp only [numberRest?, List.cons_append, htake, hdrop, h.not_tooLong, h.natural?]
    cases rest with
    | nil => rfl
    | cons d tail => simp [hstops rfl]

/-! ### Values -/

variable {fuel : Nat} {cs r rest : List Char} {v : Json}

/-- The first character of a number is a minus sign or a digit. -/
theorem NumberText.exists_head {n : Int} (h : NumberText cs n) :
    ∃ c tail, cs = c :: tail ∧ (c = '-' ∨ c.isDigit = true) := by
  cases h with
  | natural h =>
    obtain ⟨c, digits, rfl⟩ := List.exists_cons_of_ne_nil h.digits.1
    exact ⟨c, digits, rfl, .inr (h.digits.2 c List.mem_cons_self)⟩
  | negative h => exact ⟨_, _, rfl, .inl rfl⟩

/-- A text that begins as a number does is read as one. -/
theorem valueRest?_number {c : Char} (h : c = '-' ∨ c.isDigit = true) :
    valueRest? (fuel + 1) (c :: cs) = (numberRest? (c :: cs)).map fun (n, r) => (number n, r) := by
  have hne : c ∉ [' ', '\t', '\n', '\r', '"', '[', '\x7b', 't', 'f', 'n'] := by
    intro hc
    simp only [List.mem_cons, List.not_mem_nil, or_false] at hc
    rcases hc with rfl | rfl | rfl | rfl | rfl | rfl | rfl | rfl | rfl | rfl <;> simp at h
  simp only [List.mem_cons, List.not_mem_nil, or_false, not_or] at hne
  obtain ⟨hblank, htab, hline, hreturn, hquote, hbracket, hbrace, ht, hf, hn⟩ := hne
  have hspace : isSpace c = false := by simp [isSpace, *]
  rw [valueRest?, skipSpace, List.dropWhile_cons_of_neg (by simp [hspace])]
  split
  · next heq => exact absurd (List.head_eq_of_cons_eq heq) hquote
  · next heq => exact absurd (List.head_eq_of_cons_eq heq) hbracket
  · next heq => exact absurd (List.head_eq_of_cons_eq heq) hbrace
  · next heq => exact absurd (List.head_eq_of_cons_eq heq) ht
  · next heq => exact absurd (List.head_eq_of_cons_eq heq) hf
  · next heq => exact absurd (List.head_eq_of_cons_eq heq) hn
  · rfl

theorem valueRest?_quote (fuel : Nat) (cs : List Char) :
    valueRest? (fuel + 1) ('"' :: cs) =
      (stringRest? cs).map fun (s, r) => (string (String.ofList s), r) := rfl

/-! ### Arrays and objects -/

/-- Nothing is read in front of a closing bracket. -/
theorem elementsRest?_bracket (fuel : Nat) (rest : List Char) :
    elementsRest? fuel (']' :: rest) = none := by
  cases fuel with
  | zero => rfl
  | succ fuel =>
    cases fuel with
    | zero => rfl
    | succ fuel => rfl

theorem fieldsRest?_brace (fuel : Nat) (rest : List Char) :
    fieldsRest? fuel ('\x7d' :: rest) = none := by
  cases fuel with
  | zero => rfl
  | succ fuel => rfl

theorem valueRest?_bracket (fuel : Nat) (cs : List Char) :
    valueRest? (fuel + 1) ('[' :: cs) =
      match skipSpace cs with
      | ']' :: r => some (array [], r)
      | r => (elementsRest? fuel r).map fun (vs, r) => (array vs, r) := rfl

theorem valueRest?_brace (fuel : Nat) (cs : List Char) :
    valueRest? (fuel + 1) ('\x7b' :: cs) =
      match skipSpace cs with
      | '\x7d' :: r => some (object [], r)
      | r => (fieldsRest? fuel r).map fun (fs, r) => (object fs, r) := rfl

theorem valueRest?_emptyArray {spaces : List Char} (h : Spaces spaces) (fuel : Nat)
    (rest : List Char) :
    valueRest? (fuel + 1) ('[' :: (spaces ++ ']' :: rest)) = some (array [], rest) := by
  have hskip : skipSpace (spaces ++ ']' :: rest) = ']' :: rest := skipSpace_append h _
  rw [valueRest?_bracket, hskip]
  rfl

theorem valueRest?_emptyObject {spaces : List Char} (h : Spaces spaces) (fuel : Nat)
    (rest : List Char) :
    valueRest? (fuel + 1) ('\x7b' :: (spaces ++ '\x7d' :: rest)) = some (object [], rest) := by
  have hskip : skipSpace (spaces ++ '\x7d' :: rest) = '\x7d' :: rest := skipSpace_append h _
  rw [valueRest?_brace, hskip]
  rfl

/-- Elements are never taken for the end of their array. -/
theorem valueRest?_array {vs : List Json} (h : elementsRest? fuel cs = some (vs, rest)) :
    valueRest? (fuel + 1) ('[' :: cs) = some (array vs, rest) := by
  rw [← elementsRest?_skipSpace] at h
  rw [valueRest?_bracket]
  split
  · next hcs =>
    rw [hcs, elementsRest?_bracket] at h
    exact nomatch h
  · rw [h, Option.map_some]

theorem valueRest?_object {fields : List (String × Json)}
    (h : fieldsRest? fuel cs = some (fields, rest)) :
    valueRest? (fuel + 1) ('\x7b' :: cs) = some (object fields, rest) := by
  rw [← fieldsRest?_skipSpace] at h
  rw [valueRest?_brace]
  split
  · next hcs =>
    rw [hcs, fieldsRest?_brace] at h
    exact nomatch h
  · rw [h, Option.map_some]

theorem elementsRest?_last (hv : valueRest? fuel cs = some (v, r))
    (hend : skipSpace r = ']' :: rest) : elementsRest? (fuel + 1) cs = some ([v], rest) := by
  rw [elementsRest?, hv]
  dsimp only
  rw [hend]
  rfl

theorem elementsRest?_more (hv : valueRest? fuel cs = some (v, r))
    (hcomma : skipSpace r = ',' :: rest) :
    elementsRest? (fuel + 1) cs =
      (elementsRest? fuel rest).map fun (vs, r) => (v :: vs, r) := by
  rw [elementsRest?, hv]
  dsimp only
  rw [hcomma]
  rfl

/-- A field is taken from the start of a text. -/
inductive TakesField (fuel : Nat) : List Char → String × Json → List Char → Prop where
  | mk {cs name r value rest : List Char} {key : String} {v : Json}
      (hquote : skipSpace cs = '"' :: name) (hname : stringRest? name = some (key.toList, r))
      (hcolon : skipSpace r = ':' :: value) (hvalue : valueRest? fuel value = some (v, rest)) :
      TakesField fuel cs (key, v) rest

theorem fieldsRest?_last {field : String × Json} (h : TakesField fuel cs field r)
    (hend : skipSpace r = '\x7d' :: rest) :
    fieldsRest? (fuel + 1) cs = some ([field], rest) := by
  obtain ⟨hquote, hname, hcolon, hvalue⟩ := h
  simp only [fieldsRest?, hquote, hname, hcolon, hvalue, hend, String.ofList_toList]

theorem fieldsRest?_more {field : String × Json} (h : TakesField fuel cs field r)
    (hcomma : skipSpace r = ',' :: rest) :
    fieldsRest? (fuel + 1) cs =
      (fieldsRest? fuel rest).map fun (fields, r) => (field :: fields, r) := by
  obtain ⟨hquote, hname, hcolon, hvalue⟩ := h
  simp only [fieldsRest?, hquote, hname, hcolon, hvalue, hcomma, String.ofList_toList]

/-! ### All texts -/

/-- With this fuel, the readers take what the grammar has and leave what follows, if the text is
short enough for the fuel. -/
structure Reads (fuel : Nat) : Prop where
  value {cs rest : List Char} {v : Json} (h : ValueText cs v) (hrest : EndsNumber rest)
    (hfuel : 2 * cs.length < fuel) : valueRest? fuel (cs ++ rest) = some (v, rest)
  elements {cs rest : List Char} {vs : List Json} (h : ElementsText cs vs)
    (hfuel : 2 * cs.length + 1 < fuel) :
    elementsRest? fuel (cs ++ ']' :: rest) = some (vs, rest)
  fields {cs rest : List Char} {fields : List (String × Json)} (h : FieldsText cs fields)
    (hfuel : 2 * cs.length + 1 < fuel) :
    fieldsRest? fuel (cs ++ '\x7d' :: rest) = some (fields, rest)

/-- White space around a value does not count. -/
theorem Reads.element (h : Reads fuel) (htext : ElementText cs v) (hrest : EndsNumber rest)
    (hfuel : 2 * cs.length < fuel) :
    ∃ r, valueRest? fuel (cs ++ rest) = some (v, r) ∧ skipSpace r = skipSpace rest := by
  cases htext with
  | @mk before text after _ hbefore hvalue hafter =>
    have hlength : 2 * text.length < fuel := by
      simp only [List.length_append] at hfuel
      omega
    refine ⟨after ++ rest, ?_, skipSpace_append hafter rest⟩
    rw [← valueRest?_skipSpace, List.append_assoc, List.append_assoc, skipSpace_append hbefore,
      valueRest?_skipSpace]
    exact h.value hvalue (hrest.spaces_append hafter) hlength

theorem Reads.value_succ (h : Reads fuel) (htext : ValueText cs v) (hrest : EndsNumber rest)
    (hfuel : 2 * cs.length < fuel + 1) :
    valueRest? (fuel + 1) (cs ++ rest) = some (v, rest) := by
  cases htext with
  | null => rfl
  | isTrue => rfl
  | isFalse => rfl
  | number hn =>
    obtain ⟨c, tail, rfl, hc⟩ := hn.exists_head
    rw [List.cons_append, valueRest?_number hc, ← List.cons_append, numberRest?_append hn hrest,
      Option.map_some]
  | string hs =>
    cases hs with
    | mk hchars =>
      rw [List.cons_append, List.append_assoc, List.singleton_append, valueRest?_quote,
        stringRest?_append_quote hchars, Option.map_some]
      dsimp only
      rw [String.ofList_toList]
  | emptyArray hs =>
    rw [List.cons_append, List.append_assoc]
    exact valueRest?_emptyArray hs fuel rest
  | array hvs =>
    simp only [List.length_cons, List.length_append, List.length_nil] at hfuel
    rw [List.cons_append, List.append_assoc]
    exact valueRest?_array (h.elements hvs (by omega))
  | emptyObject hs =>
    rw [List.cons_append, List.append_assoc]
    exact valueRest?_emptyObject hs fuel rest
  | object hfields =>
    simp only [List.length_cons, List.length_append, List.length_nil] at hfuel
    rw [List.cons_append, List.append_assoc]
    exact valueRest?_object (h.fields hfields (by omega))

theorem Reads.elements_succ {vs : List Json} (h : Reads fuel) (htext : ElementsText cs vs)
    (hfuel : 2 * cs.length + 1 < fuel + 1) :
    elementsRest? (fuel + 1) (cs ++ ']' :: rest) = some (vs, rest) := by
  cases htext with
  | one hv =>
    obtain ⟨r, hread, hskip⟩ :=
      h.element hv (endsNumber_cons (c := ']') (by simp) rest) (by omega)
    exact elementsRest?_last hread hskip
  | @more text texts v vs hv hvs =>
    simp only [List.length_append, List.length_cons] at hfuel
    obtain ⟨r, hread, hskip⟩ :=
      h.element hv (endsNumber_cons (c := ',') (by simp) (texts ++ ']' :: rest)) (by omega)
    rw [List.append_assoc, List.cons_append, elementsRest?_more hread hskip,
      h.elements hvs (by omega), Option.map_some]

theorem Reads.field {field : String × Json} (h : Reads fuel) (htext : FieldText cs field)
    (hrest : EndsNumber rest) (hfuel : 2 * cs.length < fuel) :
    ∃ r, TakesField fuel (cs ++ rest) field r ∧ skipSpace r = skipSpace rest := by
  cases htext with
  | @mk before name after text key v hbefore hname hafter hvalue =>
    simp only [List.length_append, List.length_cons] at hfuel
    obtain ⟨r, hread, hskip⟩ := h.element hvalue hrest (by omega)
    cases hname with
    | @mk chars _ hchars =>
      have hquote : skipSpace (before ++ '"' :: (chars ++ ['"']) ++ after ++ ':' :: text ++ rest) =
          '"' :: (chars ++ '"' :: (after ++ ':' :: (text ++ rest))) := by
        simp only [List.append_assoc, List.cons_append, List.nil_append]
        exact skipSpace_append hbefore _
      exact ⟨r, .mk hquote (stringRest?_append_quote hchars _) (skipSpace_append hafter _) hread,
        hskip⟩

theorem Reads.fields_succ {fields : List (String × Json)} (h : Reads fuel)
    (htext : FieldsText cs fields) (hfuel : 2 * cs.length + 1 < fuel + 1) :
    fieldsRest? (fuel + 1) (cs ++ '\x7d' :: rest) = some (fields, rest) := by
  cases htext with
  | one hfield =>
    obtain ⟨r, htakes, hskip⟩ :=
      h.field hfield (endsNumber_cons (c := '\x7d') (by simp) rest) (by omega)
    exact fieldsRest?_last htakes hskip
  | @more text texts field fields hfield hfields =>
    simp only [List.length_append, List.length_cons] at hfuel
    obtain ⟨r, htakes, hskip⟩ :=
      h.field hfield (endsNumber_cons (c := ',') (by simp) (texts ++ '\x7d' :: rest)) (by omega)
    rw [List.append_assoc, List.cons_append, fieldsRest?_more htakes hskip,
      h.fields hfields (by omega), Option.map_some]

/-- The parts of a text lack a bracket or a comma of it, so two steps of fuel for each character
are enough. -/
theorem reads : ∀ fuel, Reads fuel
  | 0 => ⟨fun _ _ h => absurd h (Nat.not_lt_zero _), fun _ h => absurd h (Nat.not_lt_zero _),
      fun _ h => absurd h (Nat.not_lt_zero _)⟩
  | fuel + 1 => ⟨(reads fuel).value_succ, (reads fuel).elements_succ, (reads fuel).fields_succ⟩

/-- Every JSON text is read as its value. -/
theorem parse?_of_isText {s : String} {v : Json} (h : IsText s v) : parse? s = some v := by
  have hend : EndsNumber [] := fun _ hc => nomatch hc
  obtain ⟨r, hread, hskip⟩ :=
    (reads (2 * s.toList.length + 1)).element h hend (Nat.lt_succ_self _)
  rw [List.append_nil] at hread
  rw [parse?, hread]
  dsimp only
  rw [hskip]
  rfl

/-- A text is JSON for one value at most. -/
theorem IsText.unique {s : String} {v w : Json} (hv : IsText s v) (hw : IsText s w) : v = w :=
  Option.some_inj.1 ((parse?_of_isText hv).symm.trans (parse?_of_isText hw))

theorem parse?_compact (v : Json) : parse? v.compact = some v :=
  parse?_of_isText (isText_compact v)

theorem parse?_pretty (v : Json) : parse? v.pretty = some v :=
  parse?_of_isText (isText_pretty v)

end ScanQuery.Json
