import ScanQuery.Proofs.Text.Split
import ScanQuery.Query.Eval
import ScanQuery.Query.Parser

/-!
What the reading of a query depends on. The groups of a query are cut out of its text, the clauses
of a group out of the text of the group, and a clause is read from its trimmed text. White space at
either end of a condition has no say in its meaning, since key and values are trimmed again, and
one `not ` at the beginning of a clause negates what the rest of it says.
-/

namespace ScanQuery.Query

/-! ### Groups and clauses -/

theorem toList_orSeparator : orSeparator.toList = Text.spaced ['o', 'r'] := rfl

theorem toList_andSeparator : andSeparator.toList = Text.spaced ['a', 'n', 'd'] := rfl

/-- The clauses written in the text of one group. -/
def groupClauses (cs : List Char) : List Clause :=
  (Text.splitChars andSeparator.toList cs).map fun c => Clause.parse (String.ofList c)

theorem groups_parse (text : String) :
    (parse text).groups = (Text.splitChars orSeparator.toList text.toList).map groupClauses := by
  simp only [parse, splitGroups, Text.split, List.map_map]
  refine List.map_congr_left fun cs _ => ?_
  simp [groupClauses, Text.split]

theorem holds_parse (s : Sighting) (text : String) :
    (parse text).holds s =
      (Text.splitChars orSeparator.toList text.toList).any fun cs =>
        (groupClauses cs).all (Clause.holds s) := by
  rw [holds, groups_parse, List.any_map]
  rfl

/-- A text without separators is a query of one clause. -/
theorem groups_parse_of_no_match {text : String} (hor : ¬ orSeparator.toList <:+: text.toList)
    (hand : ¬ andSeparator.toList <:+: text.toList) :
    (parse text).groups = [[Clause.parse text]] := by
  rw [groups_parse, Text.splitChars_of_no_match (by decide) hor, List.map_singleton,
    groupClauses, Text.splitChars_of_no_match (by decide) hand, List.map_singleton,
    String.ofList_toList]

/-! ### Conditions -/

theorem Comparison.token_ne_nil (c : Comparison) : c.token.toList ≠ [] := by
  cases c <;> decide

theorem Comparison.isOrdinal_of_ne (c : Comparison) (h : c ≠ .equals) : c.isOrdinal = true := by
  cases c with
  | equals => exact absurd rfl h
  | _ => rfl

theorem Comparison.isBlank_of_mem_token (c : Comparison) :
    ∀ d ∈ c.token.toList, Text.isBlank d = false := by
  cases c <;> simp [token, Text.isBlank]

theorem splitOperator?_eq (text : String) :
    splitOperator? text = Comparison.detectionOrder.findSome? fun c =>
      (Text.splitOnce? c.token text).map fun cut => (cut.1, c, cut.2) := rfl

/-- White space around a clause text stays with the key and with the values. -/
theorem splitOperator?_surround {pre post : List Char} (hpre : Text.Blank pre)
    (cs : List Char) (hpost : Text.Blank post) :
    splitOperator? (String.ofList (pre ++ (cs ++ post))) =
      (splitOperator? (String.ofList cs)).map fun (key, c, values) =>
        (String.ofList (pre ++ key.toList), c, String.ofList (values.toList ++ post)) := by
  have hshown : ∀ {bs : List Char} (c : Comparison), Text.Blank bs → ∀ d ∈ bs, d ∉ c.token.toList :=
    fun c hbs d hd htoken => by simpa [hbs d hd] using c.isBlank_of_mem_token d htoken
  rw [splitOperator?, splitOperator?, List.map_findSome?]
  congr 1
  funext c
  simp only [Text.splitOnce?, String.toList_ofList, Function.comp_apply, Option.map_map,
    Text.cutAt?_surround c.token_ne_nil (hshown c hpre) (hshown c hpost)]
  congr 1
  funext cut
  simp only [Function.comp_apply, String.toList_ofList]

theorem splitValues_surround {pre post : List Char} (hpre : Text.Blank pre) (cs : List Char)
    (hpost : Text.Blank post) :
    splitValues (String.ofList (pre ++ (cs ++ post))) = splitValues (String.ofList cs) := by
  have hshown : ∀ d ∈ valueSeparator.toList, Text.isBlank d = false := by
    simp [valueSeparator, Text.isBlank]
  have hpieces := Text.map_trimChars_splitChars (by decide) hshown hpre hpost cs
  have hlower := congrArg (List.map fun piece => Text.lower (String.ofList piece)) hpieces
  simpa [splitValues, Text.split, Text.trim, Function.comp_def] using hlower

theorem splitValues_blank_append {pre : String} (hpre : Text.Blank pre.toList) (s : String) :
    splitValues (pre ++ s) = splitValues s := by
  have h := splitValues_surround hpre s.toList Text.blank_nil
  rwa [List.append_nil, String.ofList_append, String.ofList_toList, String.ofList_toList] at h

/-- The condition that an attribute is one of the values of a list. -/
def Condition.among : Key → List String → Condition
  | .pluginId, values => .pluginId values
  | .pluginName, values => .pluginName values
  | .severity, values => .severity .equals (values.map Severity.ofCode)
  | .port, values => .port values
  | .ip, values => .ip values

theorem Condition.parse_of_equals {text keyText values : String} {key : Key}
    (hsplit : splitOperator? text = some (keyText, .equals, values))
    (hkey : Key.ofKeyword? (Text.lower (Text.trim keyText)) = some key) :
    Condition.parse text = .among key (splitValues values) := by
  simp only [Condition.parse, hsplit, hkey]
  cases key <;> rfl

theorem Condition.parse_of_ordinal {text keyText values : String} {c : Comparison}
    (hsplit : splitOperator? text = some (keyText, c, values)) (hc : c ≠ .equals)
    (hkey : Key.ofKeyword? (Text.lower (Text.trim keyText)) = some .severity) :
    Condition.parse text = .severity c [Severity.ofCode (Text.trim values)] := by
  simp only [Condition.parse, hsplit, hkey, c.isOrdinal_of_ne hc, if_true]

theorem Condition.parse_of_undefined {text keyText values : String} {c : Comparison} {key : Key}
    (hsplit : splitOperator? text = some (keyText, c, values)) (hc : c ≠ .equals)
    (hkey : Key.ofKeyword? (Text.lower (Text.trim keyText)) = some key)
    (hother : key ≠ .severity) :
    Condition.parse text = .unsupported (.ordinalOperator key c) := by
  simp only [Condition.parse, hsplit, hkey, c.isOrdinal_of_ne hc, if_true]

/-- A condition is read the same from a text and from the trimmed text. -/
theorem Condition.parse_trim (text : String) :
    Condition.parse (Text.trim text) = Condition.parse text := by
  obtain ⟨pre, post, hpre, -, hpost, heq⟩ := Text.exists_trimChars text.toList
  have hsplit := splitOperator?_surround hpre (Text.trimChars text.toList) hpost
  rw [← heq, String.ofList_toList, ← Text.trim] at hsplit
  rw [Condition.parse, Condition.parse, hsplit]
  cases splitOperator? (Text.trim text) with
  | none => rfl
  | some cut =>
    obtain ⟨key, c, values⟩ := cut
    have hkey : Text.trim (String.ofList (pre ++ key.toList)) = Text.trim key := by
      rw [Text.trim, String.toList_ofList, Text.trimChars_blank_append hpre, ← Text.trim]
    have hvalue : Text.trim (String.ofList (values.toList ++ post)) = Text.trim values := by
      rw [Text.trim, String.toList_ofList, Text.trimChars_append_of_blank _ hpost, ← Text.trim]
    have hvalues : splitValues (String.ofList (values.toList ++ post)) = splitValues values := by
      simpa using splitValues_surround Text.blank_nil values.toList hpost
    simp only [Option.map_some, hkey, hvalue, hvalues]

/-! ### Negation -/

/-- A clause is read from its trimmed text. -/
theorem Clause.parse_congr {text text' : String} (h : Text.trim text = Text.trim text') :
    Clause.parse text = Clause.parse text' := by
  simp only [Clause.parse, h]

/-- A clause that does not begin with `not ` is a condition. -/
theorem Clause.parse_plain {text : String}
    (h : ¬ negation.toList <+: (Text.trim text).toList) :
    Clause.parse text = ⟨false, Condition.parse text, Text.trim text⟩ := by
  have hnone : Text.afterStart? negation (Text.trim text) = none := Text.afterStart?_eq_none h
  simp only [Clause.parse, splitNegation, hnone, Condition.parse_trim]

/-- A clause that begins with `not ` is the negation of the condition behind it. -/
theorem Clause.parse_not {text : String} (h : Text.trim text ≠ "") :
    Clause.parse (negation ++ text) =
      ⟨true, Condition.parse text, Text.trim (negation ++ text)⟩ := by
  have hne : Text.trimChars text.toList ≠ [] := fun hnil => h (by rw [Text.trim, hnil])
  obtain ⟨rest, hfront, hrest⟩ :
      ∃ rest, Text.trimChars (negation.toList ++ text.toList) = negation.toList ++ rest ∧
        Text.trimChars rest = Text.trimChars text.toList :=
    Text.trimChars_append (by decide) (by simp [negation, Text.isBlank]) hne
  have hafter : Text.afterStart? negation (Text.trim (negation ++ text)) =
      some (String.ofList rest) := by
    rw [Text.afterStart?_eq_some_iff, ← String.toList_inj, Text.toList_trim, String.toList_append,
      hfront, String.toList_append, String.toList_ofList]
  have hbody : Text.trim (String.ofList rest) = Text.trim text := by
    rw [Text.trim, String.toList_ofList, hrest]
    rfl
  simp only [Clause.parse, splitNegation, hafter, hbody, Condition.parse_trim]

end ScanQuery.Query
