import ScanQuery.Proofs.Query.Reading

/-!
The connectives in the text of a query are the boolean operations on its meaning. What stands
before a separator is cut as it would be cut alone unless it ends in the separator without its
last space, because the words between the spaces hold no space themselves; what stands behind it
is cut as if it were alone in any case. ` or ` binds weaker than ` and `, so a conjunction of two
texts is one only while no ` or ` occurs in it, and `not ` takes one clause.
-/

namespace ScanQuery.Query

theorem holds_or (s : Sighting) {q₁ q₂ : String} (h : ¬ " or".toList <:+ q₁.toList) :
    (parse (q₁ ++ " or " ++ q₂)).holds s = ((parse q₁).holds s || (parse q₂).holds s) := by
  have hcut := Text.splitChars_append_spaced (w := ['o', 'r']) (by decide) _ q₂.toList h
  have htext : (q₁ ++ " or " ++ q₂).toList =
      q₁.toList ++ (Text.spaced ['o', 'r'] ++ q₂.toList) := by
    rw [String.toList_append, String.toList_append, List.append_assoc]
    rfl
  rw [holds_parse, holds_parse, holds_parse, toList_orSeparator, htext, hcut, List.any_append]

/-- A text without ` or ` is a query of one group. -/
theorem holds_parse_group (s : Sighting) {text : String} (h : ¬ " or ".toList <:+: text.toList) :
    (parse text).holds s = (groupClauses text.toList).all (Clause.holds s) := by
  rw [holds_parse, orSeparator, Text.splitChars_of_no_match (by decide) h, List.any_cons,
    List.any_nil, Bool.or_false]

theorem holds_and (s : Sighting) {q₁ q₂ : String} (h : ¬ " and".toList <:+ q₁.toList)
    (hor : ¬ " or ".toList <:+: (q₁ ++ " and " ++ q₂).toList) :
    (parse (q₁ ++ " and " ++ q₂)).holds s = ((parse q₁).holds s && (parse q₂).holds s) := by
  have hcut := Text.splitChars_append_spaced (w := ['a', 'n', 'd']) (by decide) _ q₂.toList h
  have htext : (q₁ ++ " and " ++ q₂).toList =
      q₁.toList ++ (Text.spaced ['a', 'n', 'd'] ++ q₂.toList) := by
    rw [String.toList_append, String.toList_append, List.append_assoc]
    rfl
  have hor₁ : ¬ " or ".toList <:+: q₁.toList := fun hin =>
    hor (htext ▸ hin.trans (List.prefix_append _ _).isInfix)
  have hor₂ : ¬ " or ".toList <:+: q₂.toList := fun hin =>
    hor (htext ▸ hin.trans ((List.suffix_append _ _).trans (List.suffix_append _ _)).isInfix)
  rw [holds_parse_group s hor, holds_parse_group s hor₁, holds_parse_group s hor₂, groupClauses,
    groupClauses, groupClauses, toList_andSeparator, htext, hcut, List.map_append, List.all_append]

/-- A text without separators holds when its one clause does. -/
theorem holds_parse_clause (s : Sighting) {text : String}
    (hor : ¬ " or ".toList <:+: text.toList) (hand : ¬ " and ".toList <:+: text.toList) :
    (parse text).holds s = (Clause.parse text).holds s := by
  rw [holds, groups_parse_of_no_match hor hand]
  simp

theorem holds_not (s : Sighting) {c : String} (hne : Text.trim c ≠ "")
    (hplain : ¬ "not ".toList <+: (Text.trim c).toList)
    (hor : ¬ " or ".toList <:+: ("not " ++ c).toList)
    (hand : ¬ " and ".toList <:+: ("not " ++ c).toList) :
    (parse ("not " ++ c)).holds s = !(parse c).holds s := by
  have hc : c.toList <:+: ("not " ++ c).toList := by
    rw [String.toList_append]
    exact (List.suffix_append _ _).isInfix
  have hnot := Clause.parse_not hne
  rw [negation] at hnot
  rw [holds_parse_clause s hor hand, holds_parse_clause s (fun hin => hor (hin.trans hc))
    (fun hin => hand (hin.trans hc)), hnot, Clause.parse_plain hplain]
  simp [Clause.holds]

/-- ` or ` between two queries is their disjunction, ` and ` their conjunction, and `not ` in
front of a clause its negation, at every finding and for clauses of any kind. -/
theorem connectives_denote (s : Sighting) :
    (∀ q₁ q₂ : String, ¬ " or".toList <:+ q₁.toList →
      (parse (q₁ ++ " or " ++ q₂)).holds s = ((parse q₁).holds s || (parse q₂).holds s)) ∧
    (∀ q₁ q₂ : String, ¬ " and".toList <:+ q₁.toList →
      ¬ " or ".toList <:+: (q₁ ++ " and " ++ q₂).toList →
      (parse (q₁ ++ " and " ++ q₂)).holds s = ((parse q₁).holds s && (parse q₂).holds s)) ∧
    (∀ c : String, Text.trim c ≠ "" → ¬ "not ".toList <+: (Text.trim c).toList →
      ¬ " or ".toList <:+: ("not " ++ c).toList → ¬ " and ".toList <:+: ("not " ++ c).toList →
      (parse ("not " ++ c)).holds s = !(parse c).holds s) :=
  ⟨fun _ _ h => holds_or s h, fun _ _ h hor => holds_and s h hor,
    fun _ hne hplain hor hand => holds_not s hne hplain hor hand⟩

/-- A finding on the port of a remote shell. -/
def telnetSighting : Sighting :=
  ⟨"10.0.0.9", "23/tcp", ⟨"10281", "Telnet Server", "2", "", none⟩⟩

/-- The clause `cvss=9` is not understood, but its negation is the negation of it as of any. -/
theorem connectives_denote_telnet :
    (parse ("sev>=hig and port=23" ++ " or " ++ "or port=23")).holds telnetSighting =
        ((parse "sev>=hig and port=23").holds telnetSighting ||
          (parse "or port=23").holds telnetSighting) ∧
      (parse ("port=23" ++ " and " ++ "not sev=non")).holds telnetSighting =
        ((parse "port=23").holds telnetSighting && (parse "not sev=non").holds telnetSighting) ∧
      (parse ("not " ++ " cvss=9 ")).holds telnetSighting =
        !(parse " cvss=9 ").holds telnetSighting :=
  have ⟨hor, hand, hnot⟩ := connectives_denote telnetSighting
  ⟨hor _ _ (by decide), hand _ _ (by decide) (by decide),
    hnot _ (by decide) (by decide) (by decide) (by decide)⟩

end ScanQuery.Query
