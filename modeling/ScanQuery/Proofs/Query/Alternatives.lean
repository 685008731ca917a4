import ScanQuery.Proofs.Query.OneClause

/-!
Lists of values. Behind `=` a list is cut at its commas and the clause holds when it would hold
with one of the values alone, whatever the key. With any other operator and a key other than the
severity the clause makes no sense, be there one value or several.

An operator that compares levels takes one level. What stands behind it is read as one code, and
no code has a comma in it; so a list of levels stands there for the lowest one, as any text does
that is no code.
-/

namespace ScanQuery

/-- A text with a comma is no code of a level. -/
theorem Severity.ofCode_of_comma {text : String} (h : ',' ∈ text.toList) :
    ofCode text = informational := by
  have hfolded : ',' ∈ (Text.asciiLower text).toList := by
    rw [Text.asciiLower, String.toList_ofList]
    exact List.mem_map.2 ⟨',', h, rfl⟩
  have hne : ∀ level : Severity, Text.asciiLower text ≠ level.code := by
    intro level heq
    rw [heq] at hfolded
    revert hfolded
    cases level <;> decide
  exact (if_neg (hne critical)).trans <| (if_neg (hne high)).trans <|
    (if_neg (hne medium)).trans <| if_neg (hne low)

namespace Query

/-- The clause with a list of values behind its operator. -/
def listing (keyword : String) (c : Comparison) (values : List String) : String :=
  keyword ++ c.token ++ ",".intercalate values

/-- A text that can be a value of a list: no comma parts it, and no operator stands in it. -/
def IsValue (v : String) : Prop :=
  ∀ d ∈ v.toList, d ∉ [',', '<', '>', '=']

/-! ### Lists -/

theorem any_congr {α : Type} {p q : α → Bool} {l : List α} (h : ∀ a ∈ l, p a = q a) :
    l.any p = l.any q := by
  rw [Bool.eq_iff_iff, List.any_eq_true, List.any_eq_true]
  exact exists_congr fun a => and_congr_right fun ha => by rw [h a ha]

variable {values : List String}

theorem operatorFree_values (h : ∀ v ∈ values, IsValue v) :
    OperatorFree (",".intercalate values) :=
  operatorFree_intercalate fun v hv d hd hop => h v hv d hd (List.mem_cons_of_mem ',' hop)

theorem splitValues_intercalate (hne : values ≠ []) (h : ∀ v ∈ values, IsValue v) :
    splitValues (",".intercalate values) = values.map fun v => Text.lower (Text.trim v) := by
  have hsplit : Text.split valueSeparator (",".intercalate values) = values :=
    Text.split_intercalate (by decide) hne fun v hv =>
      Text.clear_of_not_mem fun hcomma => h v hv ',' hcomma List.mem_cons_self
  rw [splitValues, hsplit]

/-- Each value is a part of the list. -/
theorem infix_intercalate {sep : String} {v : String} :
    ∀ {values : List String}, v ∈ values → v.toList <:+: (sep.intercalate values).toList
  | [], hv => nomatch hv
  | [w], hv => by
    rw [List.mem_singleton.1 hv, String.intercalate_singleton]
  | w :: w' :: rest, hv => by
    rw [String.intercalate_cons_cons, String.toList_append, String.toList_append]
    rcases List.mem_cons.1 hv with rfl | hv
    · rw [List.append_assoc]
      exact (List.prefix_append _ _).isInfix
    · exact (infix_intercalate hv).trans (List.suffix_append _ _).isInfix

theorem comma_mem_trim_intercalate (h : 2 ≤ values.length) :
    ',' ∈ (Text.trim (",".intercalate values)).toList := by
  match values, h with
  | v :: v' :: rest, _ =>
    rw [Text.toList_trim]
    refine Text.mem_trimChars ?_ rfl
    rw [String.intercalate_cons_cons]
    simp

/-! ### The condition -/

theorem Condition.holds_among (s : Sighting) (key : Key) (values : List String) :
    (Condition.among key values).holds s =
      values.any fun v => (Condition.among key [v]).holds s := by
  cases key <;> simp [among, holds, List.any_map, Function.comp_def]

section Written

variable {keyword : String} {key : Key} (hkeyword : Text.asciiLower keyword = key.keyword)

include hkeyword

theorem Condition.parse_listing_of_equals (hne : values ≠ []) (h : ∀ v ∈ values, IsValue v) :
    Condition.parse (listing keyword .equals values) =
      .among key (values.map fun v => Text.lower (Text.trim v)) := by
  have hsplit := splitOperator?_of_operatorFree .equals (operatorFree_keyword hkeyword)
    (operatorFree_values h)
  rw [listing, Condition.parse_of_equals hsplit (ofKeyword?_lower_trim_keyword hkeyword),
    splitValues_intercalate hne h]

theorem Condition.parse_listing_of_undefined {c : Comparison} (hc : c ≠ .equals)
    (hkey : key ≠ .severity) (h : ∀ v ∈ values, IsValue v) :
    Condition.parse (listing keyword c values) = .unsupported (.ordinalOperator key c) := by
  have hsplit := splitOperator?_of_operatorFree c (operatorFree_keyword hkeyword)
    (operatorFree_values h)
  exact Condition.parse_of_undefined hsplit hc (ofKeyword?_lower_trim_keyword hkeyword) hkey

end Written

theorem Condition.parse_listing_of_ordinal {keyword : String}
    (hkeyword : Text.asciiLower keyword = Key.severity.keyword) {c : Comparison}
    (hc : c ≠ .equals) (h : ∀ v ∈ values, IsValue v) :
    Condition.parse (listing keyword c values) =
      .severity c [Severity.ofCode (Text.trim (",".intercalate values))] := by
  have hsplit := splitOperator?_of_operatorFree c (operatorFree_keyword hkeyword)
    (operatorFree_values h)
  exact Condition.parse_of_ordinal hsplit hc (ofKeyword?_lower_trim_keyword hkeyword)

/-- A list of values is a disjunction unless it is a list of several levels to compare with. -/
theorem Condition.holds_parse_listing (s : Sighting) {keyword : String} {key : Key}
    (hkeyword : Text.asciiLower keyword = key.keyword) {c : Comparison} (hne : values ≠ [])
    (h : ∀ v ∈ values, IsValue v) (hlist : c = .equals ∨ key ≠ .severity ∨ values.length = 1) :
    (Condition.parse (listing keyword c values)).holds s =
      values.any fun v => (Condition.parse (listing keyword c [v])).holds s := by
  have hone : ∀ v ∈ values, ∀ w ∈ [v], IsValue w := by
    intro v hv w hw
    rw [List.mem_singleton.1 hw]
    exact h v hv
  by_cases hc : c = .equals
  · subst hc
    rw [parse_listing_of_equals hkeyword hne h, holds_among, List.any_map]
    refine any_congr fun v hv => ?_
    rw [parse_listing_of_equals hkeyword (List.cons_ne_nil v []) (hone v hv), List.map_singleton,
      Function.comp_apply]
  · by_cases hkey : key = .severity
    · obtain ⟨v, rfl⟩ : ∃ v, values = [v] :=
        List.length_eq_one_iff.1 ((hlist.resolve_left hc).resolve_left (not_not.2 hkey))
      rw [List.any_cons, List.any_nil, Bool.or_false]
    · have hnever : ∀ v ∈ values, ¬ (Condition.parse (listing keyword c [v])).holds s = true := by
        intro v hv
        rw [parse_listing_of_undefined hkeyword hc hkey (hone v hv)]
        exact Bool.false_ne_true
      rw [parse_listing_of_undefined hkeyword hc hkey h, List.any_eq_false.2 hnever]
      rfl

/-- Several levels to compare with are read as the lowest one. -/
theorem Condition.parse_listing_of_several {keyword : String}
    (hkeyword : Text.asciiLower keyword = Key.severity.keyword) {c : Comparison}
    (hc : c ≠ .equals) (h : ∀ v ∈ values, IsValue v) (hseveral : 2 ≤ values.length) :
    Condition.parse (listing keyword c values) =
      Condition.parse (listing keyword c [Severity.informational.code]) := by
  have hcode : ∀ v ∈ [Severity.informational.code], IsValue v := by
    simp [IsValue, Severity.code]
  rw [parse_listing_of_ordinal hkeyword hc h, parse_listing_of_ordinal hkeyword hc hcode,
    Severity.ofCode_of_comma (comma_mem_trim_intercalate hseveral)]
  rfl

/-! ### The clause -/

theorem infix_listing (keyword : String) (c : Comparison) (values : List String) :
    (",".intercalate values).toList <:+: (listing keyword c values).toList := by
  rw [listing, String.toList_append]
  exact (List.suffix_append _ _).isInfix

/-- A list of values says that one of them applies. Only several levels to compare with are no such
list: they say what the lowest level does. -/
theorem alternatives_denote (s : Sighting) {keyword : String} {key : Key}
    (hkeyword : Text.asciiLower keyword = key.keyword) (c : Comparison) {values : List String}
    (hne : values ≠ []) (hvalues : ∀ v ∈ values, IsValue v)
    (hor : ¬ " or ".toList <:+: (listing keyword c values).toList)
    (hand : ¬ " and ".toList <:+: (listing keyword c values).toList) :
    (c = .equals ∨ key ≠ .severity ∨ values.length = 1 →
      (parse (listing keyword c values)).holds s =
        values.any fun v => (parse (listing keyword c [v])).holds s) ∧
    (c ≠ .equals → key = .severity → 2 ≤ values.length →
      (parse (listing keyword c values)).holds s =
        (parse (listing keyword c [Severity.informational.code])).holds s) := by
  have hlisted := infix_listing keyword c values
  have hwhole : (parse (listing keyword c values)).holds s =
      (Condition.parse (listing keyword c values)).holds s :=
    holds_operatorText hkeyword c s (fun h => hor (h.trans hlisted))
      fun h => hand (h.trans hlisted)
  have hone : ∀ {v : String}, ¬ " or ".toList <:+: v.toList → ¬ " and ".toList <:+: v.toList →
      (parse (listing keyword c [v])).holds s =
        (Condition.parse (listing keyword c [v])).holds s := by
    intro v hor hand
    rw [listing, String.intercalate_singleton]
    exact holds_operatorText hkeyword c s hor hand
  constructor
  · intro hlist
    rw [hwhole, Condition.holds_parse_listing s hkeyword hne hvalues hlist]
    refine any_congr fun v hv => (hone (fun h => hor ?_) fun h => hand ?_).symm
    · exact h.trans ((infix_intercalate hv).trans hlisted)
    · exact h.trans ((infix_intercalate hv).trans hlisted)
  · rintro hc rfl hseveral
    rw [hwhole, Condition.parse_listing_of_several hkeyword hc hvalues hseveral]
    exact (hone (by decide) (by decide)).symm

/-- Ids are alternatives, in whatever case the keyword is written; two levels to compare with are
read as the lowest one. -/
theorem alternatives_denote_telnet :
    (parse "PluginID=11219,10281").holds telnetSighting =
        ["11219", "10281"].any (fun v => (parse ("PluginID=" ++ v)).holds telnetSighting) ∧
      (parse "sev>=hig,cri").holds telnetSighting = (parse "sev>=non").holds telnetSighting := by
  have hids : ∀ v ∈ ["11219", "10281"], IsValue v := by simp [IsValue]
  have hlevels : ∀ v ∈ ["hig", "cri"], IsValue v := by simp [IsValue]
  have hlist := alternatives_denote telnetSighting
    (by decide : Text.asciiLower "PluginID" = Key.pluginId.keyword) .equals (by simp) hids
    (by decide) (by decide)
  have hcompared := alternatives_denote telnetSighting
    (by decide : Text.asciiLower "sev" = Key.severity.keyword) .greaterThanOrEqual (by simp) hlevels
    (by decide) (by decide)
  have hone := hlist.1 (.inl rfl)
  simp only [listing, String.intercalate_singleton] at hone
  exact ⟨hone, hcompared.2 (by decide) rfl (by simp)⟩

/-- A finding of low severity. -/
def lowSighting : Sighting :=
  ⟨"10.0.0.9", "23/tcp", ⟨"10281", "Telnet Server", "1", "", none⟩⟩

/-- It is above none of two levels, and the list of both holds of it. -/
theorem levels_no_alternatives :
    listing "sev" .greaterThan ["hig", "cri"] = "sev>hig,cri" ∧
      (parse (listing "sev" .greaterThan ["hig", "cri"])).holds lowSighting = true ∧
      ["hig", "cri"].any (fun v => (parse (listing "sev" .greaterThan [v])).holds lowSighting) =
        false := by
  decide +kernel

end Query

end ScanQuery
