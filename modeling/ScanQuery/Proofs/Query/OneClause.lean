import ScanQuery.Proofs.Query.Connectives
import ScanQuery.Proofs.Query.Grammar

/-!
Queries of one clause. A clause begins with a keyword, whose first letter is not that of a
negation, so it is read as a condition. Neither its keyword nor its operator has a part in a
separator, so a query is the one clause that it is written as unless a separator stands in the
values, and it holds when the condition of the clause does.
-/

namespace ScanQuery.Query

theorem Key.asciiLower_keyword (key : Key) : Text.asciiLower key.keyword = key.keyword := by
  cases key <;> decide

section Written

variable {keyword : String} {key : Key} (hkeyword : Text.asciiLower keyword = key.keyword)
  (c : Comparison)

include hkeyword

/-- A separator in the clause is one in the values. -/
theorem not_infix_operatorText {w : List Char} (hspace : ' ' ∈ w)
    (hplain : ∀ d ∈ ['<', '>', '='], d ∉ w) {values : String} (h : ¬ w <:+: values.toList) :
    ¬ w <:+: (keyword ++ c.token ++ values).toList := by
  intro hin
  rw [toList_operatorText] at hin
  have hapart : ∀ d ∈ c.token.toList, d ∉ w :=
    fun d hd => hplain d (mem_operators_of_mem_token c d hd)
  rcases Text.infix_of_infix_append_append c.token_ne_nil hapart hin with hin | hin
  · have halpha := isAlpha_of_mem_keyword hkeyword (hin.subset hspace)
    exact absurd halpha (by decide)
  · exact h hin

theorem Clause.parse_operatorText (values : String) :
    Clause.parse (keyword ++ c.token ++ values) =
      ⟨false, Condition.parse (keyword ++ c.token ++ values),
        Text.trim (keyword ++ c.token ++ values)⟩ := by
  obtain ⟨d, rest, hchars, hblank, hn⟩ := exists_keyword_eq_cons hkeyword
  have htext : (keyword ++ c.token ++ values).toList =
      d :: (rest ++ (c.token.toList ++ values.toList)) := by
    rw [toList_operatorText, hchars, List.cons_append]
  exact Clause.parse_of_first htext hblank hn

theorem Clause.holds_operatorText (s : Sighting) (values : String) :
    (Clause.parse (keyword ++ c.token ++ values)).holds s =
      (Condition.parse (keyword ++ c.token ++ values)).holds s := by
  rw [Clause.parse_operatorText hkeyword, Clause.holds, Bool.bne_false]

theorem Clause.holds_not_operatorText (s : Sighting) (values : String) :
    (Clause.parse ("not " ++ (keyword ++ c.token ++ values))).holds s =
      !(Condition.parse (keyword ++ c.token ++ values)).holds s := by
  obtain ⟨d, rest, hchars, hblank, -⟩ := exists_keyword_eq_cons hkeyword
  have hd : d ∈ (keyword ++ c.token ++ values).toList := by
    rw [toList_operatorText, hchars]
    exact List.mem_cons_self
  have hne : Text.trim (keyword ++ c.token ++ values) ≠ "" := by
    rw [← String.toList_inj.ne, Text.toList_trim]
    exact Text.trimChars_ne_nil hd hblank
  have hnot := Clause.parse_not hne
  rw [negation] at hnot
  rw [hnot, Clause.holds, Bool.bne_true]

/-- The query of one clause holds when its condition does. -/
theorem holds_operatorText (s : Sighting) {values : String}
    (hor : ¬ " or ".toList <:+: values.toList) (hand : ¬ " and ".toList <:+: values.toList) :
    (parse (keyword ++ c.token ++ values)).holds s =
      (Condition.parse (keyword ++ c.token ++ values)).holds s := by
  have hor' : ¬ " or ".toList <:+: (keyword ++ c.token ++ values).toList :=
    not_infix_operatorText hkeyword c (by simp) (by simp) hor
  have hand' : ¬ " and ".toList <:+: (keyword ++ c.token ++ values).toList :=
    not_infix_operatorText hkeyword c (by simp) (by simp) hand
  rw [holds_parse_clause s hor' hand', Clause.holds_operatorText hkeyword]

theorem ofKeyword?_lower_trim_keyword :
    Key.ofKeyword? (Text.lower (Text.trim keyword)) = some key := by
  rw [trim_keyword hkeyword, ofKeyword?_lower_keyword hkeyword]

end Written

end ScanQuery.Query
