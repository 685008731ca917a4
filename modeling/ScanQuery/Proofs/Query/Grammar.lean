import ScanQuery.Proofs.Query.Reading
import ScanQuery.Proofs.Text.Case

/-!
The grammar of queries. A written clause has a keyword in any case, an operator and values, with
any number of spaces in every slot; clauses are joined by ` and ` to groups and groups by ` or ` to
a sentence. Reading a sentence gives the groups and clauses that it was written from.

The operator is found because no operator character stands anywhere else, the values because no
comma stands in any of them. A clause text stays whole if it holds neither separator even with a
space put at each end, since a separator at a joint would need such a space.
-/

namespace ScanQuery.Query

/-! ### Writing -/

/-- A text of spaces. -/
def spaces (n : Nat) : String :=
  String.ofList (List.replicate n ' ')

/-- A value and the numbers of spaces around it. -/
structure WrittenValue where
  before : Nat
  value : String
  after : Nat
  plain : ∀ d ∈ value.toList, d ∉ [',', '<', '>', '=']
  trimmed : Text.Trimmed value.toList

/-- A clause and the numbers of spaces in its slots: at its ends, behind `not ` if it is negated
and around the operator. The operators other than `=` take one severity level. -/
structure WrittenClause where
  lead : Nat
  negation? : Option Nat
  key : Key
  keyword : String
  beforeOperator : Nat
  operator : Comparison
  afterOperator : Nat
  values : List WrittenValue
  trail : Nat
  keyword_eq : Text.asciiLower keyword = key.keyword
  values_ne : values ≠ []
  ordinal : operator ≠ .equals → key = .severity ∧ values.length = 1

def WrittenValue.text (v : WrittenValue) : String :=
  spaces v.before ++ v.value ++ spaces v.after

namespace WrittenClause

/-- The text behind the operator. -/
def valuesText (c : WrittenClause) : String :=
  spaces c.afterOperator ++ ",".intercalate (c.values.map WrittenValue.text)

/-- The text of the clause without its negation. -/
def body (c : WrittenClause) : String :=
  c.keyword ++ spaces c.beforeOperator ++ c.operator.token ++ c.valuesText

/-- The text of the clause. -/
def text (c : WrittenClause) : String :=
  match c.negation? with
  | some n => spaces c.lead ++ ("not " ++ (spaces n ++ c.body)) ++ spaces c.trail
  | none => spaces c.lead ++ c.body ++ spaces c.trail

/-- What the clause says: its values in lower case or the levels that they name. -/
def condition (c : WrittenClause) : Condition :=
  match c.key with
  | .pluginId => .pluginId (c.values.map fun v => Text.lower v.value)
  | .pluginName => .pluginName (c.values.map fun v => Text.lower v.value)
  | .severity => .severity c.operator (c.values.map fun v => Severity.ofCode v.value)
  | .port => .port (c.values.map fun v => Text.lower v.value)
  | .ip => .ip (c.values.map fun v => Text.lower v.value)

/-- The clause that the writing stands for. -/
def clause (c : WrittenClause) : Clause :=
  ⟨c.negation?.isSome, c.condition, Text.trim c.text⟩

/-- Neither separator occurs in the clause text with a space at each end. -/
def Whole (c : WrittenClause) : Prop :=
  ¬ " or ".toList <:+: (" " ++ c.text ++ " ").toList ∧
    ¬ " and ".toList <:+: (" " ++ c.text ++ " ").toList

end WrittenClause

/-- The text of a group of clauses. -/
def groupText (group : List WrittenClause) : String :=
  " and ".intercalate (group.map WrittenClause.text)

/-- The text of groups of clauses. -/
def sentence (groups : List (List WrittenClause)) : String :=
  " or ".intercalate (groups.map groupText)

/-! ### Levels -/

theorem asciiLower_lower_eq_code_iff (s : String) (level : Severity) :
    Text.asciiLower (Text.lower s) = level.code ↔ Text.asciiLower s = level.code :=
  Text.asciiLower_lower_eq_iff (by cases level <;> simp [Severity.code])

/-- A level is read the same from a text and from the text in lower case. -/
theorem ofCode_lower (s : String) : Severity.ofCode (Text.lower s) = Severity.ofCode s := by
  have hcri := asciiLower_lower_eq_code_iff s .critical
  have hhig := asciiLower_lower_eq_code_iff s .high
  have hmed := asciiLower_lower_eq_code_iff s .medium
  have hlow := asciiLower_lower_eq_code_iff s .low
  simp only [Severity.code] at hcri hhig hmed hlow
  simp only [Severity.ofCode, hcri, hhig, hmed, hlow]

/-! ### Spaces -/

theorem blank_spaces (n : Nat) : Text.Blank (spaces n).toList := by
  rw [spaces, String.toList_ofList]
  exact Text.blank_replicate n

theorem trim_spaces_append (n : Nat) (s : String) : Text.trim (spaces n ++ s) = Text.trim s := by
  rw [Text.trim, String.toList_append, Text.trimChars_blank_append (blank_spaces n), ← Text.trim]

theorem trim_append_spaces (s : String) (n : Nat) : Text.trim (s ++ spaces n) = Text.trim s := by
  rw [Text.trim, String.toList_append, Text.trimChars_append_of_blank _ (blank_spaces n),
    ← Text.trim]

theorem trim_writtenValue (v : WrittenValue) : Text.trim v.text = v.value := by
  rw [WrittenValue.text, trim_append_spaces, trim_spaces_append, Text.trim_of_trimmed v.trimmed]

/-! ### The operator -/

/-- Without a character that operators are made of. -/
def OperatorFree (s : String) : Prop :=
  ∀ d ∈ s.toList, d ∉ ['<', '>', '=']

theorem OperatorFree.append {s t : String} (hs : OperatorFree s) (ht : OperatorFree t) :
    OperatorFree (s ++ t) := by
  intro d hd
  rw [String.toList_append] at hd
  exact (List.mem_append.1 hd).elim (hs d) (ht d)

theorem operatorFree_spaces (n : Nat) : OperatorFree (spaces n) := by
  intro d hd
  rw [spaces, String.toList_ofList] at hd
  rw [List.eq_of_mem_replicate hd]
  decide

theorem mem_operators_of_mem_token (c : Comparison) :
    ∀ d ∈ c.token.toList, d ∈ ['<', '>', '='] := by
  cases c <;> simp [Comparison.token]

/-- An operator that is looked for before another one has a character that this one lacks. -/
theorem detectionOrder_eq : ∀ c : Comparison,
    ∃ earlier later, Comparison.detectionOrder = earlier ++ c :: later ∧
      ∀ e ∈ earlier, ¬ e.token.toList ⊆ c.token.toList
  | .equals =>
    ⟨[.lessThanOrEqual, .greaterThanOrEqual, .lessThan, .greaterThan], [], rfl, by decide⟩
  | .lessThan =>
    ⟨[.lessThanOrEqual, .greaterThanOrEqual], [.greaterThan, .equals], rfl, by decide⟩
  | .lessThanOrEqual =>
    ⟨[], [.greaterThanOrEqual, .lessThan, .greaterThan, .equals], rfl, by decide⟩
  | .greaterThan =>
    ⟨[.lessThanOrEqual, .greaterThanOrEqual, .lessThan], [.equals], rfl, by decide⟩
  | .greaterThanOrEqual =>
    ⟨[.lessThanOrEqual], [.lessThan, .greaterThan, .equals], rfl, by decide⟩

theorem toList_operatorText (key : String) (c : Comparison) (values : String) :
    (key ++ c.token ++ values).toList = key.toList ++ (c.token.toList ++ values.toList) := by
  rw [String.toList_append, String.toList_append, List.append_assoc]

/-- An operator behind a text without operator characters cuts it off, whatever follows. -/
theorem splitOnce?_token {key : String} (hkey : OperatorFree key) (c : Comparison)
    (values : String) :
    Text.splitOnce? c.token (key ++ c.token ++ values) = some (key, values) := by
  have hclear : Text.Clear c.token.toList key.toList := by
    obtain ⟨d, rest, htoken⟩ := List.exists_cons_of_ne_nil c.token_ne_nil
    have hop := mem_operators_of_mem_token c d (htoken ▸ List.mem_cons_self)
    rw [htoken]
    exact Text.clear_of_not_mem fun hd => hkey d hd hop
  rw [Text.splitOnce?, toList_operatorText, Text.cutAt?_of_clear c.token_ne_nil hclear,
    Option.map_some]
  simp only [String.ofList_toList]

/-- The operator that is found is one that cuts the text while those looked for before it have
characters that the text lacks. -/
theorem splitOperator?_of_first {text key values : String} {c : Comparison}
    {earlier later : List Comparison} (horder : Comparison.detectionOrder = earlier ++ c :: later)
    (hearlier : ∀ e ∈ earlier, ∃ d ∈ e.token.toList, d ∉ text.toList)
    (hfound : Text.splitOnce? c.token text = some (key, values)) :
    splitOperator? text = some (key, c, values) := by
  have hnone : ∀ e ∈ earlier,
      ((Text.splitOnce? e.token text).map fun cut => (cut.1, e, cut.2)) = none := by
    intro e he
    obtain ⟨d, hd, habsent⟩ := hearlier e he
    have hcut := (Text.cutAt?_eq_none_iff e.token_ne_nil).2 (Text.not_infix_of_not_mem hd habsent)
    rw [Text.splitOnce?, hcut, Option.map_none, Option.map_none]
  rw [splitOperator?_eq, horder, List.findSome?_append, List.findSome?_eq_none_iff.2 hnone,
    Option.none_or, List.findSome?_cons, hfound]
  rfl

/-- An operator between texts without operator characters is the one that is found. -/
theorem splitOperator?_of_operatorFree {key values : String} (c : Comparison)
    (hkey : OperatorFree key) (hvalues : OperatorFree values) :
    splitOperator? (key ++ c.token ++ values) = some (key, c, values) := by
  obtain ⟨earlier, later, horder, hpart⟩ := detectionOrder_eq c
  refine splitOperator?_of_first horder (fun e he => ?_) (splitOnce?_token hkey c values)
  obtain ⟨d, hd, hd'⟩ : ∃ d ∈ e.token.toList, d ∉ c.token.toList := by
    simpa [List.subset_def] using hpart e he
  have hop := mem_operators_of_mem_token e d hd
  refine ⟨d, hd, ?_⟩
  rw [toList_operatorText, List.mem_append, List.mem_append]
  rintro (h | h | h)
  · exact hkey d h hop
  · exact hd' h
  · exact hvalues d h hop

/-! ### The values -/

theorem WrittenValue.mem_text {v : WrittenValue} {d : Char} (h : d ∈ v.text.toList) :
    d = ' ' ∨ d ∈ v.value.toList := by
  simp only [WrittenValue.text, spaces, String.toList_append, String.toList_ofList,
    List.mem_append, List.mem_replicate] at h
  tauto

theorem WrittenValue.comma_not_mem_text (v : WrittenValue) : ',' ∉ v.text.toList := by
  intro h
  rcases v.mem_text h with h | h
  · exact absurd h (by decide)
  · exact v.plain _ h List.mem_cons_self

theorem WrittenValue.operatorFree_text (v : WrittenValue) : OperatorFree v.text := by
  intro d hd hop
  rcases v.mem_text hd with rfl | h
  · exact absurd hop (by decide)
  · exact v.plain d h (List.mem_cons_of_mem ',' hop)

theorem operatorFree_intercalate : ∀ {texts : List String},
    (∀ t ∈ texts, OperatorFree t) → OperatorFree (",".intercalate texts)
  | [], _ => fun d hd => by simp at hd
  | [t], h => by
    rw [String.intercalate_singleton]
    exact h t List.mem_cons_self
  | t :: t' :: texts, h => by
    have hcomma : OperatorFree "," := by simp [OperatorFree]
    have hrest := operatorFree_intercalate fun u hu => h u (List.mem_cons_of_mem t hu)
    rw [String.intercalate_cons_cons]
    exact ((h t List.mem_cons_self).append hcomma).append hrest

/-! ### The keyword -/

section Keyword

variable {keyword : String} {key : Key} (hkeyword : Text.asciiLower keyword = key.keyword)

include hkeyword

theorem map_toLower_keyword : keyword.toList.map Char.toLower = key.keyword.toList := by
  rw [← hkeyword, Text.asciiLower, String.toList_ofList]

theorem isAlpha_of_mem_keyword {d : Char} (h : d ∈ keyword.toList) : d.isAlpha = true :=
  Text.isAlpha_of_mem_of_asciiLower (by cases key <;> simp [Key.keyword]) hkeyword h

theorem operatorFree_keyword : OperatorFree keyword := by
  intro d hd hop
  have halpha := isAlpha_of_mem_keyword hkeyword hd
  have hnone : ∀ e ∈ ['<', '>', '='], e.isAlpha = false := by simp
  exact absurd halpha (by simp [hnone d hop])

/-- The keyword begins with a letter other than that of a negation. -/
theorem exists_keyword_eq_cons :
    ∃ d rest, keyword.toList = d :: rest ∧ Text.isBlank d = false ∧ d ≠ 'n' := by
  have hmap := map_toLower_keyword hkeyword
  cases hchars : keyword.toList with
  | nil =>
    rw [hchars] at hmap
    cases key <;> simp [Key.keyword] at hmap
  | cons d rest =>
    have hd := isAlpha_of_mem_keyword hkeyword (hchars ▸ List.mem_cons_self)
    refine ⟨d, rest, rfl, Text.isBlank_of_isAlpha hd, ?_⟩
    rintro rfl
    rw [hchars] at hmap
    cases key <;> simp [Key.keyword] at hmap

theorem trim_keyword : Text.trim keyword = keyword :=
  Text.trim_of_trimmed <| Text.trimmed_of_forall fun _ hd =>
    Text.isBlank_of_isAlpha (isAlpha_of_mem_keyword hkeyword hd)

/-- The keyword names its key in any case. -/
theorem ofKeyword?_lower_keyword : Key.ofKeyword? (Text.lower keyword) = some key := by
  have hascii : ∀ d ∈ key.keyword.toList, d.toNat < 0x80 := by
    cases key <;> simp [Key.keyword]
  rw [Text.lower_eq_of_asciiLower hascii hkeyword]
  cases key <;> decide

end Keyword

/-! ### The clause -/

/-- A clause that begins with a letter other than that of a negation is a condition. -/
theorem Clause.parse_of_first {text : String} {d : Char} {rest : List Char}
    (htext : text.toList = d :: rest) (hblank : Text.isBlank d = false) (hn : d ≠ 'n') :
    Clause.parse text = ⟨false, Condition.parse text, Text.trim text⟩ := by
  refine Clause.parse_plain fun hpre => ?_
  rw [Text.toList_trim] at hpre
  have hfirst := hpre.trans (Text.trimChars_prefix (by simp [htext, hblank]))
  rw [htext] at hfirst
  exact hn (List.cons_prefix_cons.1 hfirst).1.symm

namespace WrittenClause

variable (c : WrittenClause)

theorem operatorFree_valuesText : OperatorFree c.valuesText := by
  refine (operatorFree_spaces c.afterOperator).append (operatorFree_intercalate fun t ht => ?_)
  obtain ⟨v, -, rfl⟩ := List.mem_map.1 ht
  exact v.operatorFree_text

/-- A list of written values is cut into its values. -/
theorem splitValues_valuesText :
    splitValues c.valuesText = c.values.map fun v => Text.lower v.value := by
  have hspaces : splitValues c.valuesText =
      splitValues (",".intercalate (c.values.map WrittenValue.text)) := by
    rw [valuesText, splitValues_blank_append (blank_spaces c.afterOperator)]
  have hclear : ∀ t ∈ c.values.map WrittenValue.text,
      Text.Clear valueSeparator.toList t.toList := by
    intro t ht
    obtain ⟨v, -, rfl⟩ := List.mem_map.1 ht
    exact Text.clear_of_not_mem v.comma_not_mem_text
  have hsplit : Text.split valueSeparator (",".intercalate (c.values.map WrittenValue.text)) =
      c.values.map WrittenValue.text :=
    Text.split_intercalate (by decide) (by simpa using c.values_ne) hclear
  rw [hspaces, splitValues, hsplit, List.map_map]
  exact List.map_congr_left fun v _ => congrArg Text.lower (trim_writtenValue v)

/-- The trimmed text behind an operator that takes one level is the only value. -/
theorem trim_valuesText {v : WrittenValue} (h : c.values = [v]) :
    Text.trim c.valuesText = v.value := by
  rw [valuesText, trim_spaces_append, h, List.map_singleton, String.intercalate_singleton,
    trim_writtenValue]

/-- The written clause without its negation is read as its condition. -/
theorem parse_body : Condition.parse c.body = c.condition := by
  have hsplit : splitOperator? c.body =
      some (c.keyword ++ spaces c.beforeOperator, c.operator, c.valuesText) :=
    splitOperator?_of_operatorFree c.operator
      ((operatorFree_keyword c.keyword_eq).append (operatorFree_spaces c.beforeOperator))
      c.operatorFree_valuesText
  have hkey : Key.ofKeyword? (Text.lower (Text.trim (c.keyword ++ spaces c.beforeOperator))) =
      some c.key := by
    rw [trim_append_spaces, trim_keyword c.keyword_eq, ofKeyword?_lower_keyword c.keyword_eq]
  by_cases hop : c.operator = .equals
  · have hlevels : (splitValues c.valuesText).map Severity.ofCode =
        c.values.map fun v => Severity.ofCode v.value := by
      simp only [c.splitValues_valuesText, List.map_map, Function.comp_def, ofCode_lower]
    rw [hop] at hsplit
    rw [Condition.parse_of_equals hsplit hkey, condition, hop]
    cases c.key with
    | severity => exact congrArg _ hlevels
    | _ => exact congrArg _ c.splitValues_valuesText
  · obtain ⟨hkey', hone⟩ := c.ordinal hop
    obtain ⟨v, hv⟩ := List.length_eq_one_iff.1 hone
    rw [hkey'] at hkey
    rw [Condition.parse_of_ordinal hsplit hop hkey, condition, hkey', c.trim_valuesText hv, hv]
    rfl

/-- The text of a clause is read as the clause. -/
theorem parse_text : Clause.parse c.text = c.clause := by
  obtain ⟨d, rest, hkeyword, hblank, hn⟩ := exists_keyword_eq_cons c.keyword_eq
  obtain ⟨rest', hbody⟩ : ∃ rest', c.body.toList = d :: rest' := by
    simp only [body, String.toList_append, hkeyword, List.cons_append]
    exact ⟨_, rfl⟩
  cases hnegation : c.negation? with
  | none =>
    have htrim : Text.trim c.text = Text.trim c.body := by
      simp only [text, hnegation, trim_append_spaces, trim_spaces_append]
    rw [Clause.parse_congr htrim, Clause.parse_of_first hbody hblank hn, c.parse_body, ← htrim,
      clause, hnegation]
    rfl
  | some n =>
    have htrim : Text.trim c.text = Text.trim (negation ++ (spaces n ++ c.body)) := by
      simp only [text, hnegation, trim_append_spaces, trim_spaces_append]
      rfl
    have hne : Text.trim (spaces n ++ c.body) ≠ "" := by
      rw [trim_spaces_append, ← String.toList_inj.ne, Text.toList_trim]
      exact Text.trimChars_ne_nil (hbody ▸ List.mem_cons_self) hblank
    have hcondition : Condition.parse (spaces n ++ c.body) = c.condition := by
      rw [← Condition.parse_trim, trim_spaces_append, Condition.parse_trim, c.parse_body]
    rw [Clause.parse_congr htrim, Clause.parse_not hne, hcondition, ← htrim, clause, hnegation]
    rfl

/-! ### Sentences -/

theorem Whole.bare {c : WrittenClause} (h : c.Whole) :
    Text.Bare ['o', 'r'] c.text.toList ∧ Text.Bare ['a', 'n', 'd'] c.text.toList := by
  have hpadded : (" " ++ c.text ++ " ").toList = ' ' :: (c.text.toList ++ [' ']) := by
    simp
  rwa [Whole, hpadded] at h

end WrittenClause

theorem split_groupText {group : List WrittenClause} (hne : group ≠ [])
    (hwhole : ∀ c ∈ group, c.Whole) :
    Text.split andSeparator (groupText group) = group.map WrittenClause.text := by
  refine Text.split_intercalate (by decide) (by simpa using hne) fun t ht => ?_
  obtain ⟨c, hc, rfl⟩ := List.mem_map.1 ht
  exact (hwhole c hc).bare.2.clear (by decide)

/-- No clause of a group, and no two joined, make up an ` or `. -/
theorem bare_groupText {group : List WrittenClause} (hne : group ≠ [])
    (hwhole : ∀ c ∈ group, c.Whole) : Text.Bare ['o', 'r'] (groupText group).toList := by
  have htext : (groupText group).toList =
      (Text.spaced ['a', 'n', 'd']).intercalate (group.map fun c => c.text.toList) := by
    rw [groupText, String.toList_intercalate, List.map_map]
    rfl
  rw [htext]
  refine Text.Bare.intercalate (by decide) (by simp [Text.spaced]) (by simpa using hne) ?_
  intro cs hcs
  obtain ⟨c, hc, rfl⟩ := List.mem_map.1 hcs
  exact (hwhole c hc).bare.1

theorem splitGroups_sentence {groups : List (List WrittenClause)} (hne : groups ≠ [])
    (hfull : ∀ group ∈ groups, group ≠ []) (hwhole : ∀ group ∈ groups, ∀ c ∈ group, c.Whole) :
    splitGroups (sentence groups) = groups.map (·.map WrittenClause.text) := by
  have hsplit : Text.split orSeparator (sentence groups) = groups.map groupText := by
    refine Text.split_intercalate (by decide) (by simpa using hne) fun t ht => ?_
    obtain ⟨group, hgroup, rfl⟩ := List.mem_map.1 ht
    exact (bare_groupText (hfull group hgroup) (hwhole group hgroup)).clear (by decide)
  rw [splitGroups, hsplit, List.map_map]
  exact List.map_congr_left fun group hgroup =>
    split_groupText (hfull group hgroup) (hwhole group hgroup)

/-- Reading a sentence gives the groups of clauses from which it was written. -/
theorem parse_sentence {groups : List (List WrittenClause)} (hne : groups ≠ [])
    (hfull : ∀ group ∈ groups, group ≠ []) (hwhole : ∀ group ∈ groups, ∀ c ∈ group, c.Whole) :
    parse (sentence groups) =
      ⟨sentence groups, groups.map fun group => group.map WrittenClause.clause⟩ := by
  rw [parse, splitGroups_sentence hne hfull hwhole, List.map_map]
  congr 1
  refine List.map_congr_left fun group _ => ?_
  rw [Function.comp_apply, List.map_map]
  exact List.map_congr_left fun c _ => c.parse_text

/-- The clause ` not  PluginName = Telnet , SSH`. -/
def notTelnet : WrittenClause where
  lead := 1
  negation? := some 1
  key := .pluginName
  keyword := "PluginName"
  beforeOperator := 1
  operator := .equals
  afterOperator := 1
  values := [⟨0, "Telnet", 1, by simp, by simp [Text.Trimmed, Text.isBlank]⟩,
    ⟨1, "SSH", 0, by simp, by simp [Text.Trimmed, Text.isBlank]⟩]
  trail := 0
  keyword_eq := by decide
  values_ne := by simp
  ordinal := fun h => absurd rfl h

/-- The clause `sev>=HIG `. -/
def sevAtLeastHigh : WrittenClause where
  lead := 0
  negation? := none
  key := .severity
  keyword := "sev"
  beforeOperator := 0
  operator := .greaterThanOrEqual
  afterOperator := 0
  values := [⟨0, "HIG", 0, by simp, by simp [Text.Trimmed, Text.isBlank]⟩]
  trail := 1
  keyword_eq := by decide
  values_ne := by simp
  ordinal := fun _ => ⟨rfl, rfl⟩

/-- A sentence in which spaces, cases and both separators come up. -/
theorem parse_telnet_sentence :
    parse " not  PluginName = Telnet , SSH and sev>=HIG  or sev>=HIG " =
      ⟨" not  PluginName = Telnet , SSH and sev>=HIG  or sev>=HIG ",
        [[⟨true, .pluginName ["telnet", "ssh"], "not  PluginName = Telnet , SSH"⟩,
          ⟨false, .severity .greaterThanOrEqual [.high], "sev>=HIG"⟩],
        [⟨false, .severity .greaterThanOrEqual [.high], "sev>=HIG"⟩]]⟩ := by
  have hnot : notTelnet.Whole := ⟨by decide, by decide⟩
  have hsev : sevAtLeastHigh.Whole := ⟨by decide, by decide⟩
  have hparse : parse (sentence [[notTelnet, sevAtLeastHigh], [sevAtLeastHigh]]) = _ :=
    parse_sentence (by simp) (by simp) (by simp [hnot, hsev])
  exact hparse

end ScanQuery.Query
