import ScanQuery.Proofs.Ingestion
import ScanQuery.Proofs.Summary

/-!
Matched and unmatched plugins share out the plugins of a collection. The two lists come from
different places: a collection registers a plugin with every item that is read, an answer gathers
the plugins of the findings that it selects, in the order of its scan. In a collection that was
filled by reading documents the ids agree nevertheless, since what a scan finds was once an item.
What is not matched is listed as all plugins are, because sorting keeps the order within a level.
-/

namespace ScanQuery

/-- All plugins are listed level by level, each level in the order of registration. -/
theorem Collection.listPlugins_eq_flatMap (c : Collection) :
    c.listPlugins = [Severity.critical, .high, .medium, .low, .informational].flatMap fun level =>
      c.plugins.filter (·.severity = level) :=
  Plugin.sortBySeverity_eq_flatMap c.plugins

/-- The unmatched plugins are those listed, but for the matched ids. -/
theorem Collection.unmatched_eq_filter_listPlugins (c : Collection) (matched : List Plugin) :
    Plugin.unmatched matched c.plugins =
      c.listPlugins.filter fun p => p.id ∉ matched.map (·.id) := by
  rw [Plugin.unmatched_eq, Plugin.sortBySeverity_filter, listPlugins]

/-! ### Registered plugins -/

/-- Whatever a collection holds comes from an item, whose plugin is registered. -/
theorem Ingest.Gathered.mem_ids_of_located {names : List String}
    {items : List (String × ItemElement)} {c : Collection} (hc : Gathered names items c)
    {x : Host × String × Finding} (hx : x ∈ c.located) :
    x.2.2.pluginId ∈ c.plugins.map (·.id) := by
  obtain ⟨h, port, f⟩ := x
  obtain ⟨ip, hhost, hf⟩ : ∃ ip, c.host? ip = some h ∧ f ∈ (h.findings.get? port).getD [] := by
    simpa [Collection.located, KeyMap.mem_values_iff, Host.mem_located_iff,
      Collection.host?] using hx
  have hentry := hc.entry_eq ip port
  rw [hhost, Option.bind_some] at hentry
  rw [hentry, getD_entryOf?, Arrival.listed] at hf
  obtain ⟨a, ha, rfl⟩ := List.mem_map.1 hf
  obtain ⟨i, hi, rfl⟩ := List.mem_map.1 (List.mem_filter.1 ha).1
  rw [hc.mem_ids_iff]
  exact List.mem_map_of_mem hi

/-- A query matches plugins of the findings that the collection holds. -/
theorem ids_runQuery_subset_located (time text : String) (c : Collection) :
    (runQuery time text c).plugins.map (·.id) ⊆ c.located.map (·.2.2.pluginId) := by
  intro id hid
  obtain ⟨x, hx, rfl⟩ := List.mem_map.1 ((mem_ids_runQuery_iff time text c).1 hid)
  exact List.mem_map_of_mem (List.mem_filter.1 hx).1

/-- In a collection filled by reading documents, each with settings of its own, a query matches
registered plugins only; every registered id is either matched or unmatched and not both; the
unmatched plugins are the listed ones without the matched ids; and listing goes level by level, in
the order of registration, whatever collection it is. -/
theorem plugins_partition (docs : List (IngestSettings × String)) (time text : String) :
    let c := (docs.foldl (fun p d => p.parse d.1 d.2) Ingest.Progress.start).collection
    let matched := (runQuery time text c).plugins
    let unmatched := Plugin.unmatched matched c.plugins
    matched.map (·.id) ⊆ c.plugins.map (·.id) ∧
      (∀ id ∈ c.plugins.map (·.id), Xor (id ∈ matched.map (·.id)) (id ∈ unmatched.map (·.id))) ∧
      unmatched = c.listPlugins.filter (fun p => p.id ∉ matched.map (·.id)) ∧
      ∀ c : Collection, c.listPlugins =
        [Severity.critical, .high, .medium, .low, .informational].flatMap fun level =>
          c.plugins.filter (·.severity = level) := by
  intro c matched unmatched
  have hgathered := (Ingest.tallied_parseEach docs).gathered
  refine ⟨fun id hid => ?_, fun id hid => ?_, c.unmatched_eq_filter_listPlugins matched,
    Collection.listPlugins_eq_flatMap⟩
  · obtain ⟨x, hx, rfl⟩ := List.mem_map.1 (ids_runQuery_subset_located time text c hid)
    exact hgathered.mem_ids_of_located hx
  · have hunmatched : id ∈ unmatched.map (·.id) ↔ id ∉ matched.map (·.id) := by
      rw [Plugin.mem_ids_unmatched_iff, and_iff_right hid]
    by_cases hmatched : id ∈ matched.map (·.id)
    · exact .inl ⟨hmatched, fun h => hunmatched.1 h hmatched⟩
    · exact .inr ⟨hunmatched.2 hmatched, hmatched⟩

/-- Two reports on one host, the first read with names looked up and the second without. -/
def twoReports : List (IngestSettings × String) :=
  [(⟨"nessus", true⟩, Ingest.telnetReport),
    (⟨"nessus", false⟩, "<r><Report><ReportHost name=\"h\">" ++
      "<ReportItem port=\"80\" severity=\"3\" pluginID=\"9\"/></ReportHost></Report></r>")]

/-- The plugin of the second report is left when the first one's is asked for. -/
theorem plugins_partition_twoReports :
    let c := (twoReports.foldl (fun p d => p.parse d.1 d.2) Ingest.Progress.start).collection
    let matched := (runQuery "" "pluginid=7" c).plugins
    let unmatched := Plugin.unmatched matched c.plugins
    "9" ∈ c.plugins.map (·.id) ∧ "9" ∉ matched.map (·.id) ∧
      Xor ("9" ∈ matched.map (·.id)) ("9" ∈ unmatched.map (·.id)) := by
  intro c matched unmatched
  have hheld : "9" ∈ c.plugins.map (·.id) := by decide +kernel
  have hother : "9" ∉ matched.map (·.id) := by decide +kernel
  exact ⟨hheld, hother, (plugins_partition twoReports "" "pluginid=7").2.1 "9" hheld⟩

end ScanQuery
