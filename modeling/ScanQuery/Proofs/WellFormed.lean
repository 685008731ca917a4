import ScanQuery.Proofs.DrillDown
import ScanQuery.Proofs.Rerendering
import ScanQuery.Proofs.SharedPorts

/-!
Well-formed results. Whatever is done to a result, its hosts stand under their own addresses, none
is without a port and no port without a finding; no plugin is named twice; the sorted keys and the
noted ports are strictly ascending; and the counts never claim more than is held.

Sorted keys, noted ports and counts are brought up to date on demand only, so they may be those of
an earlier moment. What makes them harmless is that findings are added and never taken away: a key
that was held once is held still, and a number that was right once is too small at worst.
-/

namespace ScanQuery

/-! ### Hosts, ports and findings -/

namespace Collection

/-- Whether every host has a port, and each of its ports a finding. -/
structure Stocked (c : Collection) : Prop where
  has_port : ∀ ip h, c.host? ip = some h → h.findings.keys ≠ []
  has_finding : ∀ ip h port findings, c.host? ip = some h →
    h.findings.get? port = some findings → findings ≠ []

/-- The keys of all hosts, each with the ports that have an entry. -/
def places (c : Collection) : List (String × String) :=
  c.hosts.entries.flatMap fun (ip, h) => h.findings.keys.map fun port => (ip, port)

/-- Whether the counts claim no more than is held. -/
structure CountsWithin (c : Collection) : Prop where
  hosts_le : c.counts.hosts ≤ c.hosts.keys.length
  ports_le : c.counts.ports ≤ c.places.length
  findings_le : c.counts.findings ≤ c.located.length

variable {c : Collection}

/-- The numbers that are counted are those of the hosts, of their ports and of their findings. -/
theorem actualCounts_eq (c : Collection) :
    c.actualCounts = ⟨c.hosts.keys.length, c.places.length, c.located.length⟩ := by
  have hports : c.hosts.total Host.portCount = c.places.length := by
    rw [KeyMap.total_eq_sum, places, List.length_flatMap]
    refine congrArg List.sum (List.map_congr_left fun e _ => ?_)
    rw [List.length_map, KeyMap.keys, List.length_map]
    rfl
  have hfindings : c.hosts.total Host.findingCount = c.located.length := by
    rw [KeyMap.total_eq_sum, located, List.length_flatMap, KeyMap.values, List.map_map]
    refine congrArg List.sum (List.map_congr_left fun e _ => ?_)
    show e.2.findingCount = (e.2.located.map fun x => (e.2, x.1, x.2)).length
    rw [List.length_map, Host.findingCount, KeyMap.total_eq_sum, Host.located,
      List.length_flatMap]
    simp only [List.length_map]
  rw [actualCounts, hports, hfindings, KeyMap.keys, List.length_map]
  rfl

theorem countsWithin_iff : c.CountsWithin ↔
    c.counts.hosts ≤ c.actualCounts.hosts ∧ c.counts.ports ≤ c.actualCounts.ports ∧
      c.counts.findings ≤ c.actualCounts.findings := by
  rw [actualCounts_eq]
  exact ⟨fun h => ⟨h.hosts_le, h.ports_le, h.findings_le⟩, fun h => ⟨h.1, h.2.1, h.2.2⟩⟩

theorem CountsWithin.updateCounts (c : Collection) : c.updateCounts.CountsWithin :=
  countsWithin_iff.2 ⟨Nat.le_refl _, Nat.le_refl _, Nat.le_refl _⟩

/-- Adding a finding takes nothing away that was counted. -/
theorem CountsWithin.addFinding (hc : c.CountsWithin) (ip : String) (fqdn : Option String)
    (port : String) (f : Finding) : (c.addFinding ip fqdn port f).CountsWithin := by
  obtain ⟨hhosts, hports, hfindings⟩ := countsWithin_iff.1 hc
  rw [countsWithin_iff, actualCounts_addFinding]
  exact ⟨Nat.le_add_right_of_le hhosts, Nat.le_add_right_of_le hports,
    Nat.le_add_right_of_le hfindings⟩

theorem OwnKeys.addFinding (hc : c.OwnKeys) (ip : String) (fqdn : Option String) (port : String)
    (f : Finding) : (c.addFinding ip fqdn port f).OwnKeys := by
  rw [ownKeys_iff] at hc ⊢
  intro ip' h hh
  rw [host?_addFinding] at hh
  split at hh
  · next heq =>
    obtain rfl := Option.some.inj hh
    rw [Host.ip_addFinding, heq]
    cases hhost : c.host? ip with
    | none => rfl
    | some h => exact hc ip h hhost
  · exact hc ip' h hh

/-- A port that was added has its finding, and the others have what they had. -/
theorem Stocked.addFinding (hc : c.Stocked) (ip : String) (fqdn : Option String) (port : String)
    (f : Finding) : (c.addFinding ip fqdn port f).Stocked where
  has_port := by
    intro ip' h hh
    rw [host?_addFinding] at hh
    split at hh
    · obtain rfl := Option.some.inj hh
      have hport : port ∈ (((c.host? ip).getD (.new ip fqdn)).addFinding port f).findings.keys := by
        rw [KeyMap.mem_keys_iff, Host.get?_addFinding, if_pos rfl]
        rfl
      exact List.ne_nil_of_mem hport
    · exact hc.has_port ip' h hh
  has_finding := by
    intro ip' h port' findings hh hport
    rw [host?_addFinding] at hh
    split at hh
    · obtain rfl := Option.some.inj hh
      rw [Host.get?_addFinding] at hport
      split at hport
      · obtain rfl := Option.some.inj hport
        exact List.append_ne_nil_of_right_ne_nil _ (List.cons_ne_nil f [])
      · rw [get?_findings_getD_new] at hport
        obtain ⟨host, hhost, hentry⟩ := Option.bind_eq_some_iff.1 hport
        exact hc.has_finding ip host port' findings hhost hentry
    · exact hc.has_finding ip' h port' findings hh hport

end Collection

/-! ### Results -/

namespace Matches

/-- What it means that a result is well formed, though parts of it may lag behind the hosts. -/
structure WellFormed (m : Matches) : Prop where
  own_keys : m.collection.OwnKeys
  stocked : m.collection.Stocked
  ids_nodup : (m.plugins.map (·.id)).Nodup
  tracked : Tracked m
  shared_ascending : m.sharedPorts.Pairwise fun a b => Port.compareKeys a b = .lt
  counts_within : m.collection.CountsWithin
  plugins_nil : m.collection.plugins = []

variable {m : Matches}

theorem wellFormed_new (time query : String) : WellFormed (.new time query) where
  own_keys := List.forall_mem_nil _
  stocked := ⟨nofun, nofun⟩
  ids_nodup := .nil
  tracked := tracked_of_sortedKeys_eq_nil rfl
  shared_ascending := .nil
  counts_within := ⟨Nat.le_refl 0, Nat.le_refl 0, Nat.le_refl 0⟩
  plugins_nil := rfl

theorem nodup_ids_addPlugin (h : (m.plugins.map (·.id)).Nodup) (f : Finding) :
    ((m.addPlugin f).plugins.map (·.id)).Nodup := by
  show ((Plugin.addNew m.plugins f.plugin).map (·.id)).Nodup
  by_cases hid : f.plugin.id ∈ m.plugins.map (·.id)
  · rw [Plugin.addNew_of_mem hid]
    exact h
  · rw [Plugin.addNew_of_notMem hid, List.map_append]
    exact h.append (List.nodup_singleton _) (List.disjoint_singleton.2 hid)

/-- A decision notes the ports of a list, which are ascending, or none. -/
theorem Tracked.shared_ascending_resolveLayout (hm : Tracked m)
    (h : m.sharedPorts.Pairwise fun a b => Port.compareKeys a b = .lt) :
    m.resolveLayout.2.sharedPorts.Pairwise fun a b => Port.compareKeys a b = .lt := by
  by_cases hlist : ∃ ports, m.resolveLayout.1 = .ok (.list ports)
  · obtain ⟨ports, hports⟩ := hlist
    rw [sharedPorts_of_list hports]
    exact (hm.ports_of_list hports).1
  · rw [sharedPorts_of_not_list fun ports hports => hlist ⟨ports, hports⟩]
    exact h

theorem WellFormed.sortPlugins (hm : WellFormed m) : WellFormed m.sortPlugins where
  own_keys := hm.own_keys
  stocked := hm.stocked
  ids_nodup := ((Plugin.sortBySeverity_perm m.plugins).map _).nodup_iff.2 hm.ids_nodup
  tracked := ⟨hm.tracked.ascending, hm.tracked.held⟩
  shared_ascending := hm.shared_ascending
  counts_within := hm.counts_within
  plugins_nil := hm.plugins_nil

theorem WellFormed.sortHosts (hm : WellFormed m) : WellFormed m.sortHosts where
  own_keys := hm.own_keys
  stocked := hm.stocked
  ids_nodup := hm.ids_nodup
  tracked := tracked_sortHosts m
  shared_ascending := hm.shared_ascending
  counts_within := hm.counts_within
  plugins_nil := hm.plugins_nil

theorem WellFormed.resolveLayout (hm : WellFormed m) : WellFormed m.resolveLayout.2 := by
  have hcollection : m.resolveLayout.2.collection = m.collection := by
    rw [collection_resolveLayout, collection_ensureSorted]
  have hplugins : m.resolveLayout.2.plugins = m.plugins := by
    rw [plugins_resolveLayout, plugins_ensureSorted]
  exact {
    own_keys := hcollection ▸ hm.own_keys
    stocked := hcollection ▸ hm.stocked
    ids_nodup := hplugins ▸ hm.ids_nodup
    tracked := hm.tracked.resolveLayout
    shared_ascending := hm.tracked.shared_ascending_resolveLayout hm.shared_ascending
    counts_within := hcollection ▸ hm.counts_within
    plugins_nil := hcollection ▸ hm.plugins_nil }

/-- The step: no action leaves a result that is not well formed. -/
theorem WellFormed.act (hm : WellFormed m) (action : Action) : WellFormed (m.act action) := by
  have hrender : ∀ renderer : Renderer, WellFormed (renderer.render m).2 := by
    intro renderer
    rw [render_snd]
    exact hm.sortPlugins.sortHosts.resolveLayout
  cases action with
  | addFinding ip fqdn port f =>
    exact {
      own_keys := hm.own_keys.addFinding ip fqdn port f
      stocked := hm.stocked.addFinding ip fqdn port f
      ids_nodup := hm.ids_nodup
      tracked := hm.tracked.act (.addFinding ip fqdn port f)
      shared_ascending := hm.shared_ascending
      counts_within := hm.counts_within.addFinding ip fqdn port f
      plugins_nil := hm.plugins_nil }
  | addPlugin f =>
    exact { hm with
      ids_nodup := nodup_ids_addPlugin hm.ids_nodup f
      tracked := hm.tracked.act (.addPlugin f) }
  | updateCounts =>
    exact { hm with
      stocked := ⟨hm.stocked.has_port, hm.stocked.has_finding⟩
      tracked := hm.tracked.act .updateCounts
      counts_within := .updateCounts m.collection }
  | sortPlugins => exact hm.sortPlugins
  | sortHosts => exact hm.sortHosts
  | resolveLayout => exact hm.resolveLayout
  | render renderer => exact hrender renderer
  | fetch renderer =>
    show WellFormed (m.fetch renderer).2
    rw [fetch_snd]
    split
    · exact hm
    · exact hrender renderer

/-- A query adds findings and plugins by the same actions. -/
theorem WellFormed.foldl_add (hm : WellFormed m) (found : List (Host × String × Finding)) :
    WellFormed (found.foldl Matches.add m) := by
  induction found generalizing m with
  | nil => exact hm
  | cons x rest ih =>
    have hfinding := hm.act (.addFinding x.1.ip x.1.fqdn x.2.1 x.2.2)
    exact ih (hfinding.act (.addPlugin x.2.2))

/-- The run: whatever is done to a result, it is well formed. -/
theorem wellFormed_of_reachable (hm : Reachable m) : WellFormed m := by
  induction hm with
  | new time query => exact wellFormed_new time query
  | run time text c => exact ((wellFormed_new time text).foldl_add _).act .updateCounts
  | act action _ ih => exact ih.act action

/-- A result whose only host was counted, sorted and listed, and then shown by a template that
fails, before another host was added. -/
def overtaken : Matches :=
  (brokenTemplate.render (alone.addPlugin ⟨"1", "a", "2", "", none⟩).updateCounts).2.addFinding
    "10.0.0.10" none "443/tcp" ⟨"2", "b", "2", "", none⟩

/-- Its counts, sorted keys and noted ports lag behind its hosts, and it is well formed. -/
theorem wellFormed_overtaken :
    Reachable overtaken ∧ overtaken.collection.counts = ⟨1, 1, 1⟩ ∧
      overtaken.sortedKeys = ["10.0.0.9"] ∧ overtaken.sharedPorts = ["80/tcp"] ∧
      overtaken.collection.places = [("10.0.0.10", "443/tcp"), ("10.0.0.9", "80/tcp")] ∧
      WellFormed overtaken := by
  have hreach : Reachable overtaken :=
    .act (.addFinding ..) (.act (.render brokenTemplate)
      (.act .updateCounts (.act (.addPlugin _) (.act (.addFinding ..) (.new ..)))))
  exact ⟨hreach, by decide +kernel, by decide +kernel, by decide +kernel, by decide +kernel,
    wellFormed_of_reachable hreach⟩

end Matches

end ScanQuery
