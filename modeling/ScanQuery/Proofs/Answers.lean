import ScanQuery.Proofs.LayoutDecision
import ScanQuery.Proofs.PluginLists
import ScanQuery.Proofs.Selection

/-!
The answer to a query, read off the findings that the query selects. The answer is empty exactly
when nothing is selected; its plugins are those of the selected findings, each once; and an answer
is shown by every built-in format, since a result with hosts has a layout and a report can always
be written.
-/

namespace ScanQuery

/-- The findings that the query written in a text selects, in the order of the scan. -/
def Collection.selected (c : Collection) (text : String) : List (Host × String × Finding) :=
  c.located.filter (Query.parse text).selects

section Answers

variable (time text : String) (c : Collection)

theorem counts_runQuery : (runQuery time text c).collection.counts =
    (runQuery time text c).collection.actualCounts := rfl

/-! ### Plugins -/

theorem plugins_foldl_add (found : List (Host × String × Finding)) (m : Matches) :
    (found.foldl Matches.add m).plugins =
      (found.map (·.2.2.plugin)).foldl Plugin.addNew m.plugins := by
  induction found generalizing m with
  | nil => rfl
  | cons x rest ih => exact ih (m.add x)

/-- The plugins of an answer are those of the selected findings, the first of each id. -/
theorem plugins_runQuery : (runQuery time text c).plugins =
    firstBy (·.id) ((c.selected text).map (·.2.2.plugin)) := by
  rw [← Plugin.foldl_addNew_nil]
  exact plugins_foldl_add (c.selected text) (.new time text)

theorem mem_ids_runQuery_iff {id : String} :
    id ∈ (runQuery time text c).plugins.map (·.id) ↔
      id ∈ (c.selected text).map (·.2.2.pluginId) := by
  rw [plugins_runQuery, mem_map_firstBy, List.map_map]
  rfl

theorem nodup_ids_runQuery : ((runQuery time text c).plugins.map (·.id)).Nodup := by
  rw [plugins_runQuery]
  exact nodup_map_firstBy _ _

/-! ### Empty answers -/

theorem hosts_runQuery : (runQuery time text c).collection.counts.hosts =
    (((Query.parse text).arrivals c).map (·.ip)).toFinset.card := by
  have hfilled := Collection.filled_foldl ((Query.parse text).arrivals c)
  have hcollection := Query.collection_evaluate (Query.parse text) time c
  rw [runQuery, hcollection]
  exact congrArg Counts.hosts hfilled.counts_eq

/-- An answer is empty exactly when nothing is selected. -/
theorem isEmpty_runQuery_iff : (runQuery time text c).isEmpty = true ↔ c.selected text = [] := by
  rw [Matches.isEmpty, decide_eq_true_eq, hosts_runQuery, Finset.card_eq_zero,
    List.toFinset_eq_empty_iff, List.map_eq_nil_iff, ← Query.map_filter_located,
    List.map_eq_nil_iff]
  rfl

theorem isEmpty_runQuery_eq_false (h : c.selected text ≠ []) :
    (runQuery time text c).isEmpty = false := by
  rw [← Bool.not_eq_true, isEmpty_runQuery_iff]
  exact h

theorem plugins_runQuery_of_selected_eq_nil (h : c.selected text = []) :
    (runQuery time text c).plugins = [] := by
  rw [plugins_runQuery, h]
  rfl

theorem values_runQuery_ne_nil (h : c.selected text ≠ []) :
    (runQuery time text c).collection.hosts.values ≠ [] := by
  have hempty := isEmpty_runQuery_eq_false time text c h
  intro hnone
  have hsize : (runQuery time text c).collection.counts.hosts = 0 := by
    rw [counts_runQuery]
    exact List.length_eq_zero_iff.2 (List.map_eq_nil_iff.1 hnone)
  rw [Matches.isEmpty, hsize] at hempty
  exact nomatch hempty

theorem fetch_of_nothing (h : c.selected text = []) (renderer : Renderer) :
    ((runQuery time text c).fetch renderer).1 = .ok (placeholderOf defaultMarker) := by
  rw [Matches.fetch, if_pos ((isEmpty_runQuery_iff time text c).2 h)]

theorem fetch_of_something (h : c.selected text ≠ []) (renderer : Renderer) :
    (runQuery time text c).fetch renderer = renderer.render (runQuery time text c) := by
  rw [Matches.fetch, if_neg ((isEmpty_runQuery_iff time text c).not.2 h)]

/-! ### Renderers -/

/-- A result with hosts has a layout. -/
theorem exists_layout_prepare {m : Matches} (h : m.collection.hosts.values ≠ []) :
    ∃ layout, (Renderer.prepare m).resolveLayout.1 = .ok layout := by
  rcases (Matches.tracked_prepare m).layout_cases with ⟨hnone, -⟩ | ⟨_, -, -, hres⟩ | ⟨-, hres⟩
  · exact absurd hnone h
  · exact ⟨_, hres⟩
  · exact ⟨_, hres⟩

/-- What a result with hosts is shown as is made from a report. -/
theorem exists_render_eq_apply {m : Matches} (h : m.collection.hosts.values ≠ [])
    (renderer : Renderer) :
    ∃ layout report, (renderer.render m).1 = renderer.apply layout report := by
  obtain ⟨layout, hlayout⟩ := exists_layout_prepare h
  exact ⟨layout, _, congrArg Prod.fst (Matches.render_of_layout hlayout renderer)⟩

theorem exists_render_builtin {m : Matches} (h : m.collection.hosts.values ≠ []) (f : Format) :
    ∃ output, ((Renderer.builtin f).render m).1 = .ok output := by
  obtain ⟨layout, report, happly⟩ := exists_render_eq_apply h (.builtin f)
  exact ⟨f.present layout report, happly⟩

/-- Whatever a result with hosts is shown with, it does not fail for want of a layout. -/
theorem render_ne_layout {m : Matches} (h : m.collection.hosts.values ≠ []) (renderer : Renderer)
    (cause : LayoutError) : (renderer.render m).1 ≠ .error (.layout cause) := by
  obtain ⟨layout, report, happly⟩ := exists_render_eq_apply h renderer
  rw [happly]
  cases renderer with
  | builtin f => exact nofun
  | custom t =>
    rw [Renderer.apply, TemplateFile.render]
    cases Template.render (t.select layout).source report.toJson <;> simp

/-- Every answer is fetched in every built-in format. -/
theorem exists_fetch_builtin (f : Format) :
    ∃ output, ((runQuery time text c).fetch (.builtin f)).1 = .ok output := by
  by_cases h : c.selected text = []
  · exact ⟨_, fetch_of_nothing time text c h (.builtin f)⟩
  · rw [fetch_of_something time text c h]
    exact exists_render_builtin (values_runQuery_ne_nil time text c h) f

end Answers

end ScanQuery
