import ScanQuery.Proofs.Query.OwnAttribute
import ScanQuery.Proofs.Text.Recasing

/-!
Letter case in clauses. No letter is an operator or a comma, so a condition is cut in the same way
however its letters are written, and its keyword and values are read without regard to case. The
texts of a finding are compared without regard to case as well, except for the port: it is compared
as it stands with values in lower case. So a port with a capital letter is found by no value, and
the case of a clause and of a finding is of no account as long as it does not make such a port of
another one.
-/

namespace ScanQuery

/-- The findings differ in the case of the letters A to Z at most, in what a clause on a text
looks at. -/
structure Sighting.Recased (s t : Sighting) : Prop where
  ip : Text.Recased s.ip t.ip
  port : Text.Recased s.port t.port
  pluginId : Text.Recased s.finding.pluginId t.finding.pluginId
  pluginName : Text.Recased s.finding.pluginName t.finding.pluginName
  severity : s.finding.severity = t.finding.severity

/-- Whether the port of a finding has no capital letter of ASCII. -/
def Sighting.PortInLowerCase (s : Sighting) : Prop :=
  Text.asciiLower (Port.segment s.port) = Port.segment s.port

instance (s : Sighting) : Decidable s.PortInLowerCase :=
  inferInstanceAs (Decidable (_ = _))

theorem Severity.ofCode_asciiLower (text : String) : ofCode (Text.asciiLower text) = ofCode text := by
  simp only [ofCode, Text.asciiLower_asciiLower]

theorem Port.segment_asciiLower (key : String) :
    segment (Text.asciiLower key) = Text.asciiLower (segment key) := by
  rw [segment, segment, Text.splitOnce?_asciiLower (by simp)]
  cases Text.splitOnce? "/" key <;> rfl

theorem Sighting.Recased.segment {s t : Sighting} (h : s.Recased t) :
    Text.Recased (Port.segment s.port) (Port.segment t.port) := by
  rw [Text.Recased, ← Port.segment_asciiLower, ← Port.segment_asciiLower, h.port]

namespace Query

/-! ### The clause -/

theorem Comparison.isAlpha_of_mem_token (c : Comparison) :
    ∀ d ∈ c.token.toList, d.isAlpha = false := by
  cases c <;> simp [token]

theorem splitOperator?_asciiLower (text : String) :
    splitOperator? (Text.asciiLower text) = (splitOperator? text).map fun (key, c, values) =>
      (Text.asciiLower key, c, Text.asciiLower values) := by
  rw [splitOperator?, splitOperator?, List.map_findSome?]
  congr 1
  funext c
  rw [Text.splitOnce?_asciiLower c.isAlpha_of_mem_token, Option.map_map, Function.comp_apply,
    Option.map_map]
  rfl

theorem splitValues_asciiLower (text : String) :
    splitValues (Text.asciiLower text) = splitValues text := by
  rw [splitValues, splitValues, Text.split_asciiLower (by simp [valueSeparator]), List.map_map]
  refine List.map_congr_left fun v _ => ?_
  rw [Function.comp_apply, Text.trim_asciiLower, Text.lower_asciiLower]

/-- A condition is read the same in any case. -/
theorem Condition.parse_asciiLower (text : String) :
    Condition.parse (Text.asciiLower text) = Condition.parse text := by
  rw [Condition.parse, Condition.parse, splitOperator?_asciiLower]
  cases splitOperator? text with
  | none => rfl
  | some cut =>
    obtain ⟨key, c, values⟩ := cut
    simp only [Option.map_some, Text.trim_asciiLower, Text.lower_asciiLower,
      splitValues_asciiLower, Severity.ofCode_asciiLower]

theorem asciiLower_equals {keyword : String} {key : Key}
    (hkeyword : Text.asciiLower keyword = key.keyword) (values : String) :
    Text.asciiLower (keyword ++ "=" ++ values) = asking key (Text.asciiLower values) := by
  rw [Text.asciiLower_append, Text.asciiLower_append, hkeyword]
  rfl

/-- Keyword and values may be written in any case. -/
theorem Condition.parse_recased {keyword keyword' : String} {key : Key}
    (hkeyword : Text.asciiLower keyword = key.keyword)
    (hkeyword' : Text.asciiLower keyword' = key.keyword) {values values' : String}
    (hvalues : Text.Recased values values') :
    Condition.parse (keyword ++ "=" ++ values) = Condition.parse (keyword' ++ "=" ++ values') := by
  rw [← Condition.parse_asciiLower, asciiLower_equals hkeyword, hvalues,
    ← asciiLower_equals hkeyword', Condition.parse_asciiLower]

/-- A clause that asks for values is not understood, or its values are in lower case. -/
theorem Condition.parse_equals_cases {keyword : String} {key : Key}
    (hkeyword : Text.asciiLower keyword = key.keyword) (values : String) :
    (∃ why, Condition.parse (keyword ++ "=" ++ values) = .unsupported why) ∨
      ∃ listed : List String, (∀ v ∈ listed, Text.asciiLower v = v) ∧
        Condition.parse (keyword ++ "=" ++ values) = .among key listed := by
  rw [← Condition.parse_asciiLower, asciiLower_equals hkeyword]
  -- with an ordinal operator among the values the clause is cut there
  by_cases hordinal : ∃ d ∈ ['<', '>'], d ∈ (Text.asciiLower values).toList
  · obtain ⟨d, hd, hmem⟩ := hordinal
    obtain ⟨unknown, hparse⟩ := Condition.parse_asking_of_ordinal key hd hmem
    exact .inl ⟨_, hparse⟩
  · push Not at hordinal
    refine .inr ⟨_, ?_, Condition.parse_asking key hordinal⟩
    intro v hv
    obtain ⟨piece, -, rfl⟩ := List.mem_map.1 hv
    exact Text.asciiLower_lower _

/-! ### The finding -/

section Finding

variable {s t : Sighting} {listed : List String} (hlisted : ∀ v ∈ listed, Text.asciiLower v = v)

include hlisted

/-- No value in lower case is a port with a capital letter. -/
theorem Condition.holds_port_of_capital (hs : ¬ s.PortInLowerCase) :
    (Condition.port listed).holds s = false := by
  refine List.any_eq_false.2 fun v hv hport => hs ?_
  rw [Sighting.PortInLowerCase, ← of_decide_eq_true hport]
  exact hlisted v hv

/-- The case of a finding is of no account unless it is that of the port. -/
theorem Condition.holds_among_recased {key : Key} (h : s.Recased t)
    (hport : key = .port → (s.PortInLowerCase ↔ t.PortInLowerCase)) :
    (Condition.among key listed).holds s = (Condition.among key listed).holds t := by
  cases key with
  | pluginId =>
    have hid : Text.Recased (Text.trim s.finding.pluginId) (Text.trim t.finding.pluginId) := by
      rw [Text.Recased, ← Text.trim_asciiLower, ← Text.trim_asciiLower, h.pluginId]
    simp only [among, holds, hid.equalIgnoringAsciiCase_eq]
  | pluginName => simp only [among, holds, h.pluginName.lower_eq]
  | severity => simp only [among, holds, Finding.ordinal, h.severity]
  | port =>
    by_cases hs : s.PortInLowerCase
    · have ht : t.PortInLowerCase := (hport rfl).1 hs
      have hsegment : Port.segment s.port = Port.segment t.port := hs.symm.trans (h.segment.trans ht)
      simp only [among, holds, hsegment]
    · have ht : ¬ t.PortInLowerCase := fun ht => hs ((hport rfl).2 ht)
      rw [among, holds_port_of_capital hlisted hs, holds_port_of_capital hlisted ht]
  | ip => simp only [among, holds, h.ip.equalIgnoringAsciiCase_eq]

end Finding

/-- The case of letters is of no account to a clause that asks for values, negated or not, as long
as it does not turn a port in lower case into another one. A port with a capital letter is found by
no value. -/
theorem letter_case_irrelevant {keyword keyword' : String} {key : Key}
    (hkeyword : Text.asciiLower keyword = key.keyword)
    (hkeyword' : Text.asciiLower keyword' = key.keyword) {values values' : String}
    (hvalues : Text.Recased values values') {s t : Sighting} (h : s.Recased t) :
    ((key = .port → (s.PortInLowerCase ↔ t.PortInLowerCase)) →
      (Clause.parse (keyword ++ "=" ++ values)).holds s =
        (Clause.parse (keyword' ++ "=" ++ values')).holds t ∧
      (Clause.parse ("not " ++ (keyword ++ "=" ++ values))).holds s =
        (Clause.parse ("not " ++ (keyword' ++ "=" ++ values'))).holds t) ∧
    (key = .port → ¬ s.PortInLowerCase →
      (Clause.parse (keyword ++ "=" ++ values)).holds s = false ∧
      (Clause.parse ("not " ++ (keyword ++ "=" ++ values))).holds s = true) := by
  have hplain := Clause.holds_operatorText hkeyword .equals s values
  have hnegated := Clause.holds_not_operatorText hkeyword .equals s values
  have hplain' := Clause.holds_operatorText hkeyword' .equals t values'
  have hnegated' := Clause.holds_not_operatorText hkeyword' .equals t values'
  rw [Comparison.token] at hplain hnegated hplain' hnegated'
  rw [hplain, hnegated, hplain', hnegated', ← Condition.parse_recased hkeyword hkeyword' hvalues]
  rcases Condition.parse_equals_cases hkeyword values with ⟨why, hwhy⟩ | ⟨listed, hlisted, hlist⟩
  · rw [hwhy]
    exact ⟨fun _ => ⟨rfl, rfl⟩, fun _ _ => ⟨rfl, rfl⟩⟩
  · rw [hlist]
    refine ⟨fun hport => ?_, ?_⟩
    · rw [Condition.holds_among_recased hlisted h hport]
      exact ⟨rfl, rfl⟩
    · rintro rfl hcapital
      rw [Condition.among, Condition.holds_port_of_capital hlisted hcapital]
      exact ⟨rfl, rfl⟩

/-- A finding on the port `general`, with the key of the port in this case. -/
def generalSighting (port : String) : Sighting :=
  ⟨"fe80::1", port, ⟨"10281", "Telnet Server", "2", "", none⟩⟩

/-- An address and a name are found in any case, and so is a port that is in lower case; the port
`General` is not found. -/
theorem letter_case_of_general :
    (Clause.parse ("IP" ++ "=" ++ "FE80::1")).holds (generalSighting "general/tcp") =
        (Clause.parse ("ip" ++ "=" ++ "fe80::1")).holds (generalSighting "General/tcp") ∧
      (Clause.parse ("not " ++ ("PluginName" ++ "=" ++ "TELNET"))).holds
          (generalSighting "general/tcp") =
        (Clause.parse ("not " ++ ("pluginname" ++ "=" ++ "telnet"))).holds
          (generalSighting "General/tcp") ∧
      (Clause.parse ("Port" ++ "=" ++ "General")).holds (generalSighting "general/tcp") =
        (Clause.parse ("port" ++ "=" ++ "general")).holds (generalSighting "general/TCP") ∧
      (Clause.parse ("port" ++ "=" ++ "General")).holds (generalSighting "General/tcp") = false := by
  have hip : ∀ keyword ∈ ["IP", "ip"], Text.asciiLower keyword = Key.ip.keyword := by decide
  have hname : ∀ keyword ∈ ["PluginName", "pluginname"],
      Text.asciiLower keyword = Key.pluginName.keyword := by decide
  have hport : ∀ keyword ∈ ["Port", "port"], Text.asciiLower keyword = Key.port.keyword := by decide
  have hsame : (generalSighting "general/tcp").Recased (generalSighting "General/tcp") :=
    ⟨rfl, by decide, rfl, rfl, rfl⟩
  have hprotocol : (generalSighting "general/tcp").Recased (generalSighting "general/TCP") :=
    ⟨rfl, by decide, rfl, rfl, rfl⟩
  have hfound := (letter_case_irrelevant (hip "IP" (by simp)) (hip "ip" (by simp))
    (show Text.Recased "FE80::1" "fe80::1" by decide) hsame).1 (by simp)
  have hnamed := (letter_case_irrelevant (hname "PluginName" (by simp))
    (hname "pluginname" (by simp)) (show Text.Recased "TELNET" "telnet" by decide) hsame).1
    (by simp)
  have hgeneral := (letter_case_irrelevant (hport "Port" (by simp)) (hport "port" (by simp))
    (show Text.Recased "General" "general" by decide) hprotocol).1 fun _ => by decide
  have hcapital := (letter_case_irrelevant (hport "port" (by simp)) (hport "port" (by simp))
    (show Text.Recased "General" "General" from rfl) ⟨rfl, rfl, rfl, rfl, rfl⟩).2 rfl
    (show ¬ (generalSighting "General/tcp").PortInLowerCase by decide)
  exact ⟨hfound.1, hnamed.2, hgeneral.1, hcapital.1⟩

/-- The port `general` is found by `port=general` and the port `General` is not, though they differ
in the case of a letter alone. -/
theorem letter_case_of_port_matters :
    (generalSighting "general/tcp").Recased (generalSighting "General/tcp") ∧
      (Clause.parse "port=general").holds (generalSighting "general/tcp") = true ∧
      (Clause.parse "port=general").holds (generalSighting "General/tcp") = false := by
  refine ⟨⟨rfl, by decide, rfl, rfl, rfl⟩, by decide +kernel, by decide +kernel⟩

end Query

end ScanQuery
