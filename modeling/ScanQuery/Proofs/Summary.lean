import ScanQuery.Proofs.Answers

/-!
The plugins of an answer. An answer names the plugin of every selected finding once, as the first
finding of it in the order of the scan shows it: hosts by their keys, on each host the ports by
their keys, and on each port the findings as they are stored. Sorting by severity puts the levels
one behind the other and changes nothing within a level.

The list grows while the collection is scanned, by a plugin whenever its id is new. That is the
same as scanning first and keeping the first finding of each id then, since what a finding adds is
read off the finding alone.
-/

namespace ScanQuery

/-- The findings that a query selects, in the order of the scan. -/
def Query.scan (q : Query) (c : Collection) : List Finding :=
  c.hosts.entries.flatMap fun (_, h) =>
    h.findings.entries.flatMap fun (port, findings) =>
      findings.filter fun f => q.holds ⟨h.ip, port, f⟩

/-! ### The scan -/

/-- Filtering all findings of a host is filtering those of each port. -/
theorem Host.map_filter_located (h : Host) (test : String → Finding → Bool) :
    (h.located.filter fun x => test x.1 x.2).map (·.2) =
      h.findings.entries.flatMap fun (port, findings) => findings.filter (test port) := by
  rw [located, List.filter_flatMap, List.map_flatMap]
  refine List.flatMap_congr fun e _ => ?_
  rw [List.filter_map, List.map_map]
  exact List.map_id _

/-- What a query selects, without hosts and ports, is what its scan finds. -/
theorem map_selected (text : String) (c : Collection) :
    (c.selected text).map (·.2.2) = (Query.parse text).scan c := by
  rw [Collection.selected, Collection.located, List.filter_flatMap, List.map_flatMap,
    KeyMap.values, List.flatMap_map, Query.scan]
  refine List.flatMap_congr fun e _ => ?_
  rw [List.filter_map, List.map_map]
  exact e.2.map_filter_located fun port f => (Query.parse text).holds ⟨e.2.ip, port, f⟩

/-! ### First findings -/

/-- A plugin is of the level of its finding. -/
theorem filter_map_plugin (findings : List Finding) (level : Severity) :
    (findings.map Finding.plugin).filter (·.severity = level) =
      (findings.filter (·.level = level)).map Finding.plugin := by
  rw [List.filter_map]
  refine congrArg _ (List.filter_congr fun f _ => ?_)
  rw [Function.comp_apply, Finding.plugin]

/-- The first of each id that a query finds. -/
def Query.firsts (q : Query) (c : Collection) : List Finding :=
  firstBy (·.pluginId) (q.scan c)

theorem plugins_runQuery_eq_firsts (time text : String) (c : Collection) :
    (runQuery time text c).plugins = ((Query.parse text).firsts c).map Finding.plugin := by
  have hplugins : (c.selected text).map (·.2.2.plugin) =
      ((Query.parse text).scan c).map Finding.plugin := by
    simp only [← map_selected, List.map_map, Function.comp_def]
  rw [plugins_runQuery, hplugins, firstBy_map]
  simp only [Query.firsts, Finding.plugin]

/-- The plugins of an answer are those of the first findings of each id, in the order of the scan,
each with the id, the name and the level that its finding has; sorted, they are those of the highest
level, then those of the next, and so on, each level in the order of the scan. -/
theorem plugins_first_seen (time text : String) (c : Collection) :
    (runQuery time text c).plugins =
        ((Query.parse text).firsts c).map (fun f => ⟨f.pluginId, f.pluginName, f.level⟩) ∧
      (runQuery time text c).sortPlugins.plugins =
        [Severity.critical, .high, .medium, .low, .informational].flatMap fun level =>
          (((Query.parse text).firsts c).filter (·.level = level)).map
            fun f => ⟨f.pluginId, f.pluginName, f.level⟩ := by
  have hplugins := plugins_runQuery_eq_firsts time text c
  have hlevels : Severity.all.reverse =
      [.critical, .high, .medium, .low, .informational] := rfl
  refine ⟨hplugins, ?_⟩
  show Plugin.sortBySeverity (runQuery time text c).plugins = _
  rw [Plugin.sortBySeverity_eq_flatMap, hplugins, hlevels]
  refine List.flatMap_congr fun level _ => ?_
  exact filter_map_plugin _ level

end ScanQuery
