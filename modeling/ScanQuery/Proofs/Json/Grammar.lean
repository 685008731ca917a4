import ScanQuery.Json.Basic
import ScanQuery.Proofs.Text.Numerals

/-!
The grammar of JSON texts. A value has many texts: white space may stand between tokens, and a
character of a string may be escaped where it need not be. Numbers are integers here, as they are in
values. Nothing in the grammar refers to how texts are written or read; both layouts are shown to be
texts of the value that they lay out.
-/

namespace ScanQuery.Json

/-! ### Tokens -/

/-- White space between tokens. -/
def Spaces (cs : List Char) : Prop :=
  ∀ c ∈ cs, c ∈ [' ', '\t', '\n', '\r']

/-- The character is the digit for a number below sixteen, in either case. -/
def HexDigit (c : Char) (n : Nat) : Prop :=
  n < 16 ∧ (c = n.digitChar ∨ c = n.digitChar.toUpper)

/-- Four hexadecimal digits for a number. -/
inductive HexQuad : List Char → Nat → Prop where
  | mk {a b c d : Char} {i j k l : Nat} (ha : HexDigit a i) (hb : HexDigit b j)
      (hc : HexDigit c k) (hd : HexDigit d l) :
      HexQuad [a, b, c, d] (16 * (16 * (16 * i + j) + k) + l)

/-- The letters that stand for a character when they are behind a backslash. -/
def shortEscapes : List (Char × Char) :=
  [('"', '"'), ('\\', '\\'), ('/', '/'), ('b', '\u0008'), ('f', '\u000c'), ('n', '\n'),
    ('r', '\r'), ('t', '\t')]

/-- The text stands for the character in a string: as it is, behind a backslash, by its code, or,
beyond the basic plane, by the codes of two surrogates. -/
inductive CharText : List Char → Char → Prop where
  | plain {c : Char} (hquote : c ≠ '"') (hbackslash : c ≠ '\\') (hvisible : 0x20 ≤ c.toNat) :
      CharText [c] c
  | short {letter c : Char} (h : (letter, c) ∈ shortEscapes) : CharText ['\\', letter] c
  | code {digits : List Char} {c : Char} (h : HexQuad digits c.toNat) :
      CharText ('\\' :: 'u' :: digits) c
  | surrogates {high low : List Char} {m n : Nat} {c : Char} (hhigh : HexQuad high (0xD800 + m))
      (hlow : HexQuad low (0xDC00 + n)) (hm : m < 0x400) (hn : n < 0x400)
      (hc : c.toNat = 0x10000 + m * 0x400 + n) :
      CharText ('\\' :: 'u' :: high ++ '\\' :: 'u' :: low) c

/-- The text stands for the characters in a string. -/
inductive CharsText : List Char → List Char → Prop where
  | nil : CharsText [] []
  | cons {text texts cs : List Char} {c : Char} (hc : CharText text c) (hcs : CharsText texts cs) :
      CharsText (text ++ texts) (c :: cs)

/-- The text is a string in quotes. -/
inductive StringText : List Char → String → Prop where
  | mk {text : List Char} {s : String} (h : CharsText text s.toList) :
      StringText ('"' :: (text ++ ['"'])) s

/-- Digits that begin with a zero only if there are no others. -/
structure PlainDigits (cs : List Char) : Prop where
  digits : Text.Digits cs
  head_ne_zero : 1 < cs.length → cs.head? ≠ some '0'

/-- The text is an integer. -/
inductive NumberText : List Char → Int → Prop where
  | natural {cs : List Char} (h : PlainDigits cs) : NumberText cs (Text.placeValue cs)
  | negative {cs : List Char} (h : PlainDigits cs) :
      NumberText ('-' :: cs) (-(Text.placeValue cs : Int))

/-! ### Values -/

mutual

/-- The text is a value without white space around it. -/
inductive ValueText : List Char → Json → Prop where
  | null : ValueText "null".toList null
  | isTrue : ValueText "true".toList (bool true)
  | isFalse : ValueText "false".toList (bool false)
  | number {cs : List Char} {n : Int} (h : NumberText cs n) : ValueText cs (number n)
  | string {cs : List Char} {s : String} (h : StringText cs s) : ValueText cs (string s)
  | emptyArray {cs : List Char} (h : Spaces cs) : ValueText ('[' :: (cs ++ [']'])) (array [])
  | array {cs : List Char} {vs : List Json} (h : ElementsText cs vs) :
      ValueText ('[' :: (cs ++ [']'])) (array vs)
  | emptyObject {cs : List Char} (h : Spaces cs) :
      ValueText ('\x7b' :: (cs ++ ['\x7d'])) (object [])
  | object {cs : List Char} {fields : List (String × Json)} (h : FieldsText cs fields) :
      ValueText ('\x7b' :: (cs ++ ['\x7d'])) (object fields)

/-- The text is a value with white space around it. -/
inductive ElementText : List Char → Json → Prop where
  | mk {before cs after : List Char} {v : Json} (hbefore : Spaces before) (h : ValueText cs v)
      (hafter : Spaces after) : ElementText (before ++ cs ++ after) v

/-- The text is one or more values with commas between them. -/
inductive ElementsText : List Char → List Json → Prop where
  | one {cs : List Char} {v : Json} (h : ElementText cs v) : ElementsText cs [v]
  | more {cs rest : List Char} {v : Json} {vs : List Json} (h : ElementText cs v)
      (hrest : ElementsText rest vs) : ElementsText (cs ++ ',' :: rest) (v :: vs)

/-- The text is a name and a value with a colon between them. -/
inductive FieldText : List Char → String × Json → Prop where
  | mk {before name after cs : List Char} {key : String} {v : Json} (hbefore : Spaces before)
      (hname : StringText name key) (hafter : Spaces after) (h : ElementText cs v) :
      FieldText (before ++ name ++ after ++ ':' :: cs) (key, v)

/-- The text is one or more fields with commas between them. -/
inductive FieldsText : List Char → List (String × Json) → Prop where
  | one {cs : List Char} {field : String × Json} (h : FieldText cs field) :
      FieldsText cs [field]
  | more {cs rest : List Char} {field : String × Json} {fields : List (String × Json)}
      (h : FieldText cs field) (hrest : FieldsText rest fields) :
      FieldsText (cs ++ ',' :: rest) (field :: fields)

end

/-- The text is JSON for the value. -/
def IsText (s : String) (v : Json) : Prop :=
  ElementText s.toList v

/-! ### Written tokens -/

theorem spaces_nil : Spaces [] :=
  List.forall_mem_nil _

theorem spaces_space : Spaces [' '] := by
  intro c hc
  rw [List.mem_singleton.1 hc]
  decide

theorem spaces_newLine (depth : Nat) : Spaces (newLine depth) := by
  intro c hc
  rcases List.mem_cons.1 hc with rfl | hc
  · decide
  · rw [List.eq_of_mem_replicate hc]
    decide

theorem hexDigit_hexDigit {n : Nat} (h : n < 16) : HexDigit (hexDigit n) n := by
  refine ⟨h, .inl ?_⟩
  revert n
  decide

/-- A character that is written by its code has a code of two digits. -/
theorem hexQuad_of_lt {n : Nat} (h : n < 0x20) :
    HexQuad ['0', '0', hexDigit (n / 16), hexDigit (n % 16)] n := by
  have hzero : HexDigit '0' 0 := ⟨by decide, .inl rfl⟩
  have hquad := HexQuad.mk hzero hzero (hexDigit_hexDigit (n := n / 16) (by omega))
    (hexDigit_hexDigit (n := n % 16) (by omega))
  simpa only [Nat.mul_zero, Nat.zero_add, Nat.div_add_mod] using hquad

theorem charText_escapeChar (c : Char) : CharText (escapeChar c) c := by
  -- a character has a letter of its own, or is a control character, or stands for itself
  by_cases hshort : c ∈ ['"', '\\', '\n', '\r', '\t', '\u0008', '\u000c']
  · revert c
    simp only [List.forall_mem_cons]
    refine ⟨.short ?_, .short ?_, .short ?_, .short ?_, .short ?_, .short ?_, .short ?_, ?_⟩ <;>
      simp [shortEscapes]
  · simp only [List.mem_cons, List.not_mem_nil, or_false, not_or] at hshort
    obtain ⟨hquote, hbackslash, hn, hr, ht, hb, hf⟩ := hshort
    rw [escapeChar, if_neg hquote, if_neg hbackslash, if_neg hn, if_neg hr, if_neg ht, if_neg hb,
      if_neg hf]
    split
    · next hcontrol => exact .code (hexQuad_of_lt hcontrol)
    · next hvisible => exact .plain hquote hbackslash (Nat.le_of_not_lt hvisible)

theorem charsText_flatMap_escapeChar : ∀ cs : List Char, CharsText (cs.flatMap escapeChar) cs
  | [] => .nil
  | c :: cs => .cons (charText_escapeChar c) (charsText_flatMap_escapeChar cs)

theorem stringText_quote (s : String) : StringText (quote s) s :=
  .mk (charsText_flatMap_escapeChar s.toList)

theorem plainDigits_toDigits (n : Nat) : PlainDigits (Nat.toDigits 10 n) where
  digits := Text.digits_toDigits n
  head_ne_zero hlength hzero := by
    obtain rfl := Text.eq_zero_of_head?_toDigits hzero
    simp at hlength

theorem numberText_integerChars (n : Int) : NumberText (integerChars n) n := by
  cases n with
  | ofNat m =>
    have hchars : integerChars (Int.ofNat m) = Nat.toDigits 10 m := Nat.toList_repr
    have h := NumberText.natural (plainDigits_toDigits m)
    rwa [Text.placeValue_toDigits, ← hchars] at h
  | negSucc m =>
    have hchars : integerChars (Int.negSucc m) = '-' :: Nat.toDigits 10 (m + 1) := by
      rw [← Nat.toList_repr]
      exact String.toList_append
    have h := NumberText.negative (plainDigits_toDigits (m + 1))
    rwa [Text.placeValue_toDigits, ← hchars] at h

/-! ### Written values -/

theorem ElementText.of_value {before cs : List Char} {v : Json} (hbefore : Spaces before)
    (h : ValueText cs v) : ElementText (before ++ cs) v := by
  rw [← List.append_nil (before ++ cs)]
  exact .mk hbefore h spaces_nil

theorem FieldText.of_element {before name cs : List Char} {key : String} {v : Json}
    (hbefore : Spaces before) (hname : StringText name key) (h : ElementText cs v) :
    FieldText (before ++ name ++ ':' :: cs) (key, v) := by
  rw [← List.append_nil (before ++ name)]
  exact .mk hbefore hname spaces_nil h

mutual

/-- The compact layout of a value is a text of it. -/
theorem valueText_compactChars : ∀ v : Json, ValueText (compactChars v) v
  | null => .null
  | bool true => .isTrue
  | bool false => .isFalse
  | number n => .number (numberText_integerChars n)
  | string s => .string (stringText_quote s)
  | array [] => .emptyArray spaces_nil
  | array (v :: vs) => .array (elementsText_compactElements (v :: vs) (List.cons_ne_nil _ _))
  | object [] => .emptyObject spaces_nil
  | object (field :: fields) =>
    .object (fieldsText_compactFields (field :: fields) (List.cons_ne_nil _ _))

theorem elementsText_compactElements :
    ∀ vs : List Json, vs ≠ [] → ElementsText (compactElements vs) vs
  | [v], _ => .one (.of_value spaces_nil (valueText_compactChars v))
  | v :: w :: vs, _ =>
    .more (.of_value spaces_nil (valueText_compactChars v))
      (elementsText_compactElements (w :: vs) (List.cons_ne_nil _ _))

theorem fieldsText_compactFields :
    ∀ fields : List (String × Json), fields ≠ [] → FieldsText (compactFields fields) fields
  | [(key, v)], _ =>
    .one (.of_element spaces_nil (stringText_quote key)
      (.of_value spaces_nil (valueText_compactChars v)))
  | (key, v) :: field :: fields, _ =>
    .more (.of_element spaces_nil (stringText_quote key)
      (.of_value spaces_nil (valueText_compactChars v)))
      (fieldsText_compactFields (field :: fields) (List.cons_ne_nil _ _))

end

mutual

/-- The pretty layout of a value is a text of it, however deep it is set. -/
theorem valueText_prettyChars (depth : Nat) : ∀ v : Json, ValueText (prettyChars depth v) v
  | null => .null
  | bool true => .isTrue
  | bool false => .isFalse
  | number n => .number (numberText_integerChars n)
  | string s => .string (stringText_quote s)
  | array [] => .emptyArray spaces_nil
  | array (v :: vs) =>
    .array (elementsText_prettyElements (depth + 1) (spaces_newLine depth) (v :: vs)
      (List.cons_ne_nil _ _))
  | object [] => .emptyObject spaces_nil
  | object (field :: fields) =>
    .object (fieldsText_prettyFields (depth + 1) (spaces_newLine depth) (field :: fields)
      (List.cons_ne_nil _ _))

theorem elementsText_prettyElements (depth : Nat) {after : List Char} (hafter : Spaces after) :
    ∀ vs : List Json, vs ≠ [] → ElementsText (prettyElements depth vs ++ after) vs
  | [v], _ => .one (.mk (spaces_newLine depth) (valueText_prettyChars depth v) hafter)
  | v :: w :: vs, _ => by
    have hrest := elementsText_prettyElements depth hafter (w :: vs) (List.cons_ne_nil _ _)
    rw [prettyElements, List.append_assoc, List.cons_append]
    · exact .more (.of_value (spaces_newLine depth) (valueText_prettyChars depth v)) hrest
    · exact List.cons_ne_nil _ _

theorem fieldsText_prettyFields (depth : Nat) {after : List Char} (hafter : Spaces after) :
    ∀ fields : List (String × Json), fields ≠ [] →
      FieldsText (prettyFields depth fields ++ after) fields
  | [(key, v)], _ => by
    have hvalue : ElementText ([' '] ++ prettyChars depth v ++ after) v :=
      .mk spaces_space (valueText_prettyChars depth v) hafter
    rw [prettyFields, List.append_assoc]
    exact .one (.of_element (spaces_newLine depth) (stringText_quote key) hvalue)
  | (key, v) :: field :: fields, _ => by
    have hvalue : ElementText ([' '] ++ prettyChars depth v) v :=
      .of_value spaces_space (valueText_prettyChars depth v)
    have hrest := fieldsText_prettyFields depth hafter (field :: fields) (List.cons_ne_nil _ _)
    rw [prettyFields, List.append_assoc, List.cons_append]
    · exact .more (.of_element (spaces_newLine depth) (stringText_quote key) hvalue) hrest
    · exact List.cons_ne_nil _ _

end

theorem isText_compact (v : Json) : IsText v.compact v := by
  rw [IsText, compact, String.toList_ofList]
  exact .of_value spaces_nil (valueText_compactChars v)

theorem isText_pretty (v : Json) : IsText v.pretty v := by
  rw [IsText, pretty, String.toList_ofList]
  exact .of_value spaces_nil (valueText_prettyChars 0 v)

end ScanQuery.Json
