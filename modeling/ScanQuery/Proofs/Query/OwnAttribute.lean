import ScanQuery.Proofs.Query.OneClause
import ScanQuery.Proofs.Text.Lowering

/-!
Asking for a finding by what it says itself. In the clause `key=v` the operator is the one behind
the keyword as long as `v` holds neither `<` nor `>`; the clause then lists one value, `v` trimmed
and in lower case. A name in lower case holds that value whatever the name is, while the other keys
compare it with the attribute itself and do not see all that was done to it.

With `<` or `>` in `v` the clause is cut there, because these operators are looked for before `=`.
What stands in front then holds the `=` and is no keyword, so the clause never holds.
-/

namespace ScanQuery

/-- The text that a key looks at. -/
def Sighting.attribute (s : Sighting) : Query.Key → String
  | .pluginId => s.finding.pluginId
  | .pluginName => s.finding.pluginName
  | .severity => s.finding.severity
  | .port => Port.segment s.port
  | .ip => s.ip

namespace Query

/-- The clause that asks for a text under a key. -/
def asking (key : Key) (v : String) : String :=
  key.keyword ++ "=" ++ v

/-- A text that can be a whole value: no comma parts it, and neither separator occurs in it with a
space at each end. -/
structure WholeValue (v : String) : Prop where
  comma : ',' ∉ v.toList
  or_free : ¬ " or ".toList <:+: (" " ++ v ++ " ").toList
  and_free : ¬ " and ".toList <:+: (" " ++ v ++ " ").toList

instance (v : String) : Decidable (WholeValue v) :=
  decidable_of_iff (',' ∉ v.toList ∧ ¬ " or ".toList <:+: (" " ++ v ++ " ").toList ∧
      ¬ " and ".toList <:+: (" " ++ v ++ " ").toList)
    ⟨fun ⟨hcomma, hor, hand⟩ => ⟨hcomma, hor, hand⟩, fun ⟨hcomma, hor, hand⟩ => ⟨hcomma, hor, hand⟩⟩

/-- A text in which a key does not see what becomes of a value: an id is trimmed again, and ids and
addresses are compared without regard to ASCII case. -/
def Key.Keeps : Key → String → Prop
  | .pluginId, v => ∀ c ∈ v.toList, ¬ c.toNat < 0x80 → Text.InLowerCase c
  | .port, v => Text.Trimmed v.toList ∧ Text.lower v = v
  | .ip, v => Text.Trimmed v.toList ∧ ∀ c ∈ v.toList, ¬ c.toNat < 0x80 → Text.InLowerCase c
  | _, _ => True

/-! ### The clause -/

theorem toList_asking (key : Key) (v : String) :
    (asking key v).toList = key.keyword.toList ++ '=' :: v.toList := by
  rw [asking, String.toList_append, String.toList_append, List.append_assoc]
  rfl

/-- A separator in a value is one in the value with a space at each end. -/
theorem not_infix_of_spaced {w : List Char} {v : String} (h : ¬ w <:+: (" " ++ v ++ " ").toList) :
    ¬ w <:+: v.toList := by
  refine fun hin => h (hin.trans ?_)
  rw [String.toList_append, String.toList_append]
  exact List.infix_append _ _ _

/-- The query of one clause holds when its condition does. -/
theorem holds_asking (s : Sighting) (key : Key) {v : String} (hv : WholeValue v) :
    (parse (asking key v)).holds s = (Condition.parse (asking key v)).holds s :=
  holds_operatorText key.asciiLower_keyword .equals s (not_infix_of_spaced hv.or_free)
    (not_infix_of_spaced hv.and_free)

/-! ### Ordinal operators -/

/-- The operators that are looked for before `=`. -/
def Comparison.ordinals : List Comparison :=
  [lessThanOrEqual, greaterThanOrEqual, lessThan, greaterThan]

theorem Comparison.detectionOrder_eq_ordinals : detectionOrder = ordinals ++ [equals] := rfl

theorem Comparison.exists_mem_token_of_mem_ordinals :
    ∀ e ∈ ordinals, ∃ d ∈ e.token.toList, d ∈ ['<', '>'] := by
  simp [ordinals, token]

/-! ### Cut behind the keyword -/

theorem splitValues_of_comma {v : String} (h : ',' ∉ v.toList) :
    splitValues v = [Text.lower (Text.trim v)] := by
  have hno : ¬ valueSeparator.toList <:+: v.toList :=
    Text.not_infix_of_not_mem (c := ',') (by decide) h
  rw [splitValues, Text.split, Text.splitChars_of_no_match (by decide) hno, List.map_singleton,
    List.map_singleton, String.ofList_toList]

/-- The clause has an ordinal operator in the value only. -/
theorem mem_asking_iff (key : Key) {v : String} {d : Char} (hd : d ∈ ['<', '>']) :
    d ∈ (asking key v).toList ↔ d ∈ v.toList := by
  have hop : d ∈ ['<', '>', '='] := List.mem_append_left ['='] hd
  have hequals : d ≠ '=' := by
    rintro rfl
    exact absurd hd (by decide)
  have hkeyword : d ∉ key.keyword.toList := fun h =>
    operatorFree_keyword key.asciiLower_keyword d h hop
  simp [toList_asking, hkeyword, hequals]

/-- Without an ordinal operator behind the `=`, the clause asks for what is listed there. -/
theorem Condition.parse_asking (key : Key) {v : String} (hordinal : ∀ d ∈ ['<', '>'], d ∉ v.toList) :
    Condition.parse (asking key v) = .among key (splitValues v) := by
  have hearlier : ∀ e ∈ Comparison.ordinals, ∃ d ∈ e.token.toList, d ∉ (asking key v).toList := by
    intro e he
    obtain ⟨d, hd, hmem⟩ := Comparison.exists_mem_token_of_mem_ordinals e he
    exact ⟨d, hd, fun h => hordinal d hmem ((mem_asking_iff key hmem).1 h)⟩
  have hsplit : splitOperator? (asking key v) = some (key.keyword, .equals, v) :=
    splitOperator?_of_first Comparison.detectionOrder_eq_ordinals hearlier
      (splitOnce?_token (operatorFree_keyword key.asciiLower_keyword) .equals v)
  exact Condition.parse_of_equals hsplit (ofKeyword?_lower_trim_keyword key.asciiLower_keyword)

/-! ### Cut in the value -/

/-- A text with `<` or `>` is cut at an ordinal operator. -/
theorem exists_splitOperator?_of_mem {text : String} {d : Char} (hd : d ∈ ['<', '>'])
    (hmem : d ∈ text.toList) :
    ∃ keyText values, ∃ c ∈ Comparison.ordinals,
      Text.splitOnce? c.token text = some (keyText, values) ∧
      splitOperator? text = some (keyText, c, values) := by
  obtain ⟨e, he, htoken⟩ : ∃ e ∈ Comparison.ordinals, e.token.toList = [d] := by
    have hless : Comparison.lessThan ∈ Comparison.ordinals := by simp [Comparison.ordinals]
    have hgreater : Comparison.greaterThan ∈ Comparison.ordinals := by simp [Comparison.ordinals]
    simp only [List.mem_cons, List.not_mem_nil, or_false] at hd
    rcases hd with rfl | rfl
    · exact ⟨.lessThan, hless, rfl⟩
    · exact ⟨.greaterThan, hgreater, rfl⟩
  have hcut : Text.cutAt? e.token.toList text.toList ≠ none := by
    rw [Ne, Text.cutAt?_eq_none_iff e.token_ne_nil, not_not, htoken, List.singleton_infix_iff]
    exact hmem
  have hsome : (Comparison.ordinals.findSome? fun c =>
      (Text.splitOnce? c.token text).map fun cut => (cut.1, c, cut.2)).isSome := by
    rw [List.findSome?_isSome_iff]
    exact ⟨e, he, by simpa [Text.splitOnce?, Option.isSome_iff_ne_none] using hcut⟩
  obtain ⟨found, hfind⟩ := Option.isSome_iff_exists.1 hsome
  obtain ⟨c, hc, hmap⟩ := List.exists_of_findSome?_eq_some hfind
  obtain ⟨⟨keyText, values⟩, hsplit, rfl⟩ := Option.map_eq_some_iff.1 hmap
  refine ⟨keyText, values, c, hc, hsplit, ?_⟩
  rw [splitOperator?_eq, Comparison.detectionOrder_eq_ordinals, List.findSome?_append, hfind]
  rfl

/-- What stands before a cut at an ordinal operator holds the `=` of the clause. -/
theorem equals_mem_of_splitOnce? {key : Key} {v keyText values : String} {c : Comparison}
    (hc : c ∈ Comparison.ordinals)
    (h : Text.splitOnce? c.token (asking key v) = some (keyText, values)) :
    '=' ∈ keyText.toList := by
  obtain ⟨⟨before, after⟩, hcut, hpair⟩ := Option.map_eq_some_iff.1 h
  obtain ⟨rfl, rfl⟩ := by simpa using hpair
  obtain ⟨d, rest, htoken, hd⟩ : ∃ d rest, c.token.toList = d :: rest ∧ d ∈ ['<', '>'] := by
    revert hc
    cases c <;> simp [Comparison.ordinals, Comparison.token]
  have heq : (key.keyword.toList ++ ['=']) ++ v.toList = before ++ (d :: (rest ++ after)) := by
    have hwhole := Text.eq_append_of_cutAt? hcut
    rw [toList_asking, htoken] at hwhole
    simpa using hwhole
  have habsent : d ∉ key.keyword.toList ++ ['='] := by
    rw [List.mem_append, List.mem_singleton]
    rintro (hmem | rfl)
    · have hop := operatorFree_keyword key.asciiLower_keyword d hmem
      exact hop (List.mem_append_left ['='] hd)
    · exact absurd hd (by decide)
  rw [String.toList_ofList]
  exact (Text.prefix_of_append_eq heq habsent).subset (by simp)

/-- A text with `=` is no keyword. -/
theorem Key.ofKeyword?_eq_none {text : String} (h : '=' ∈ text.toList) :
    Key.ofKeyword? (Text.lower (Text.trim text)) = none := by
  have hequals : Text.InLowerCase '=' := Text.inLowerCase_toLower (c := '=') (by decide)
  have hlower : '=' ∈ (Text.lower (Text.trim text)).toList := by
    rw [Text.lower, String.toList_ofList, Text.toList_trim]
    exact Text.mem_lowerFrom hequals _ _ (Text.mem_trimChars h rfl)
  have hfolded : '=' ∈ (Text.asciiLower (Text.trim (Text.lower (Text.trim text)))).toList := by
    rw [Text.asciiLower, String.toList_ofList, Text.toList_trim]
    exact List.mem_map.2 ⟨'=', Text.mem_trimChars hlower rfl, rfl⟩
  rw [Key.ofKeyword?, List.find?_eq_none]
  intro key _ hkey
  rw [← of_decide_eq_true hkey] at hfolded
  exact absurd (isAlpha_of_mem_keyword key.asciiLower_keyword hfolded) (by decide)

/-- With `<` or `>` in the value, the clause makes no sense. -/
theorem Condition.parse_asking_of_ordinal (key : Key) {v : String} {d : Char}
    (hd : d ∈ ['<', '>']) (hmem : d ∈ v.toList) :
    ∃ keyword, Condition.parse (asking key v) = .unsupported (.unknownKey keyword) := by
  obtain ⟨keyText, values, c, hc, hcut, hsplit⟩ :=
    exists_splitOperator?_of_mem hd ((mem_asking_iff key hd).2 hmem)
  have hunknown := Key.ofKeyword?_eq_none (equals_mem_of_splitOnce? hc hcut)
  refine ⟨Text.lower (Text.trim keyText), ?_⟩
  simp only [Condition.parse, hsplit, hunknown]

/-! ### Every finding by its own attributes -/

/-- A key finds an attribute that it keeps. -/
theorem Condition.holds_among_attribute (s : Sighting) {key : Key} (hkey : key ≠ .severity)
    (hkept : key.Keeps (s.attribute key)) :
    (Condition.among key [Text.lower (Text.trim (s.attribute key))]).holds s = true := by
  cases key with
  | pluginId =>
    have hfolded := Text.map_toLower_lowerFrom (Text.trimChars s.finding.pluginId.toList) []
      fun c hc => hkept c (Text.mem_of_mem_trimChars hc)
    simp [among, holds, Sighting.attribute, Text.equalIgnoringAsciiCase, Text.lower, hfolded]
  | pluginName =>
    have hname := Text.contains_iff.2 (Text.lower_trim_infix s.finding.pluginName)
    simp [among, holds, Sighting.attribute, Text.lower_lower, hname]
  | severity => exact absurd rfl hkey
  | port =>
    obtain ⟨htrimmed, hlower⟩ := hkept
    simp only [Sighting.attribute] at htrimmed hlower
    simp [among, holds, Sighting.attribute, Text.trim_of_trimmed htrimmed, hlower]
  | ip =>
    obtain ⟨htrimmed, hcase⟩ := hkept
    simp only [Sighting.attribute] at htrimmed hcase
    have hfolded := Text.map_toLower_lowerFrom s.ip.toList [] hcase
    simp [among, holds, Sighting.attribute, Text.trim_of_trimmed htrimmed,
      Text.equalIgnoringAsciiCase, Text.lower, hfolded]

/-- A finding is found by each of its attributes that the key keeps, unless `<` or `>` is in it; by
an attribute with `<` or `>` it is never found. -/
theorem found_by_attribute (s : Sighting) (key : Key) (hkey : key ≠ .severity)
    (hv : WholeValue (s.attribute key)) :
    ('<' ∈ (s.attribute key).toList ∨ '>' ∈ (s.attribute key).toList →
      (parse (key.keyword ++ "=" ++ s.attribute key)).holds s = false) ∧
    ('<' ∉ (s.attribute key).toList → '>' ∉ (s.attribute key).toList →
      key.Keeps (s.attribute key) →
      (parse (key.keyword ++ "=" ++ s.attribute key)).holds s = true) := by
  have hclause := holds_asking s key hv
  rw [asking] at hclause
  refine ⟨fun hordinal => ?_, fun hless hgreater hkept => ?_⟩
  · obtain ⟨d, hd, hmem⟩ : ∃ d ∈ ['<', '>'], d ∈ (s.attribute key).toList := by
      simpa using hordinal
    obtain ⟨keyword, hunknown⟩ := Condition.parse_asking_of_ordinal key hd hmem
    rw [asking] at hunknown
    rw [hclause, hunknown]
    rfl
  · have hplain : ∀ d ∈ ['<', '>'], d ∉ (s.attribute key).toList := by simp [hless, hgreater]
    have hcondition := Condition.parse_asking key hplain
    rw [asking] at hcondition
    rw [hclause, hcondition, splitValues_of_comma hv.comma]
    exact Condition.holds_among_attribute s hkey hkept

/-- A finding whose name has an operator in it. -/
def phpSighting : Sighting :=
  ⟨"10.0.0.9", "443/tcp", ⟨"58987", "PHP < 8.1", "3", "", none⟩⟩

/-- The shell is found by its address and by its name, the other finding by its port but not by its
name. -/
theorem found_by_telnet_attribute :
    (parse "ip=10.0.0.9").holds telnetSighting = true ∧
      (parse "pluginname=Telnet Server").holds telnetSighting = true ∧
      (parse "port=443").holds phpSighting = true ∧
      (parse "pluginname=PHP < 8.1").holds phpSighting = false := by
  have hip : Key.ip.Keeps (telnetSighting.attribute .ip) := by
    simp [Key.Keeps, Sighting.attribute, telnetSighting, Text.Trimmed, Text.isBlank]
  have hport : Key.port.Keeps (phpSighting.attribute .port) := by
    have hsegment : phpSighting.attribute .port = "443" := by decide
    rw [hsegment]
    exact ⟨by simp [Text.Trimmed, Text.isBlank], by decide⟩
  refine ⟨?_, ?_, ?_, ?_⟩
  · exact (found_by_attribute telnetSighting .ip (by decide) (by decide)).2
      (by decide) (by decide) hip
  · exact (found_by_attribute telnetSighting .pluginName (by decide) (by decide)).2
      (by decide) (by decide) trivial
  · exact (found_by_attribute phpSighting .port (by decide) (by decide)).2
      (by decide) (by decide) hport
  · exact (found_by_attribute phpSighting .pluginName (by decide) (by decide)).1
      (.inl (by decide))

/-- A finding that is not found by an attribute of its own. -/
def Missed (s : Sighting) (key : Key) : Prop :=
  key ≠ .severity ∧ WholeValue (s.attribute key) ∧
    (parse (key.keyword ++ "=" ++ s.attribute key)).holds s = false

instance (s : Sighting) (key : Key) : Decidable (Missed s key) :=
  inferInstanceAs (Decidable (_ ∧ _))

/-- A name with `<` is missed, and so is an attribute that its key does not keep: a capital letter
beyond ASCII in an id or an address, any capital letter in a port, and white space at the end of a
port or an address. -/
theorem missed_attributes :
    Missed phpSighting .pluginName ∧
      Missed ⟨"10.0.0.9", "23/tcp", ⟨"É1", "Telnet Server", "2", "", none⟩⟩ .pluginId ∧
      Missed { telnetSighting with port := "General/tcp" } .port ∧
      Missed { telnetSighting with port := " 23/tcp" } .port ∧
      Missed { telnetSighting with ip := "ÉTÉ" } .ip ∧
      Missed { telnetSighting with ip := "10.0.0.9 " } .ip := by
  decide +kernel

end Query

end ScanQuery
