import ScanQuery.Proofs.Query.Reading

/-!
What cutting a query leaves. The pieces are the text without its separators: joined by ` and ` and
` or ` they give it back, and neither separator occurs in any of them, because each level of the
cut goes on to the end and a piece of a group is a part of the group. There is always a group, and
a clause in every group, so no group holds of a finding of which none of its clauses does.
-/

namespace ScanQuery.Query

theorem splitGroups_ne_nil (text : String) : splitGroups text ≠ [] :=
  List.map_eq_nil_iff.not.2 (Text.split_ne_nil _ _)

theorem ne_nil_of_mem_splitGroups {text : String} {group : List String}
    (h : group ∈ splitGroups text) : group ≠ [] := by
  obtain ⟨groupText, -, rfl⟩ := List.mem_map.1 h
  exact Text.split_ne_nil _ _

/-- Joining the pieces of the groups, and the groups, gives the text back. -/
theorem intercalate_splitGroups (text : String) :
    orSeparator.intercalate ((splitGroups text).map andSeparator.intercalate) = text := by
  have hgroups : (splitGroups text).map andSeparator.intercalate = Text.split orSeparator text := by
    rw [splitGroups, List.map_map]
    exact List.map_id'' (fun group => Text.intercalate_split andSeparator group) _
  rw [hgroups, Text.intercalate_split]

/-- A piece has no ` or ` because its group has none, and no ` and ` because the group was cut. -/
theorem no_separator_of_mem_splitGroups {text piece : String} {group : List String}
    (hgroup : group ∈ splitGroups text) (hpiece : piece ∈ group) :
    ¬ orSeparator.toList <:+: piece.toList ∧ ¬ andSeparator.toList <:+: piece.toList := by
  obtain ⟨groupText, htext, rfl⟩ := List.mem_map.1 hgroup
  obtain ⟨-, hor⟩ := Text.mem_split (by decide) htext
  obtain ⟨hpart, hand⟩ := Text.mem_split (by decide) hpiece
  exact ⟨fun hin => hor (hin.trans hpart), hand⟩

theorem groups_parse_ne_nil (text : String) : (parse text).groups ≠ [] :=
  List.map_eq_nil_iff.not.2 (splitGroups_ne_nil text)

/-- A clause is read from each piece, so a group that is read has one. -/
theorem ne_nil_of_mem_groups {text : String} {group : List Clause}
    (h : group ∈ (parse text).groups) : group ≠ [] := by
  obtain ⟨pieces, hpieces, rfl⟩ := List.mem_map.1 h
  exact List.map_eq_nil_iff.not.2 (ne_nil_of_mem_splitGroups hpieces)

/-- Where a group holds, so does one of its clauses. -/
theorem exists_clause_of_group_holds {text : String} {group : List Clause}
    (hgroup : group ∈ (parse text).groups) {s : Sighting}
    (hholds : group.all (Clause.holds s) = true) : ∃ c ∈ group, c.holds s = true := by
  obtain ⟨c, hc⟩ := List.exists_mem_of_ne_nil _ (ne_nil_of_mem_groups hgroup)
  exact ⟨c, hc, List.all_eq_true.1 hholds c hc⟩

/-- Cutting a query loses no text and leaves no separator behind, and every group that is read
has a clause through which alone it can hold. -/
theorem splitGroups_exhausts (text : String) :
    splitGroups text ≠ [] ∧ (∀ group ∈ splitGroups text, group ≠ []) ∧
    " or ".intercalate ((splitGroups text).map " and ".intercalate) = text ∧
    (∀ group ∈ splitGroups text, ∀ piece ∈ group,
      ¬ " or ".toList <:+: piece.toList ∧ ¬ " and ".toList <:+: piece.toList) ∧
    (parse text).groups ≠ [] ∧
    ∀ group ∈ (parse text).groups, group ≠ [] ∧
      ∀ s : Sighting, group.all (Clause.holds s) = true → ∃ c ∈ group, c.holds s = true :=
  ⟨splitGroups_ne_nil text, fun _ => ne_nil_of_mem_splitGroups, intercalate_splitGroups text,
    fun _ hgroup _ => no_separator_of_mem_splitGroups hgroup, groups_parse_ne_nil text,
    fun _ hgroup => ⟨ne_nil_of_mem_groups hgroup, fun _ => exists_clause_of_group_holds hgroup⟩⟩

/-- Of two separators that share a space the first one cuts, and the rest of the second is text. -/
example : splitGroups "a or or b and and c" = [["a"], ["or b", "and c"]] := by decide +kernel

end ScanQuery.Query
