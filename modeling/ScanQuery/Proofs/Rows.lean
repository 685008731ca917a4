import ScanQuery.Proofs.Answers
import ScanQuery.Proofs.Rerendering
import ScanQuery.Report

/-!
The rows of a report show every matched finding once. There is one row for each host of a rendered
answer, in the order of their addresses; a row names the ports of its host in their order, and for
each port the plugins of all its findings, as they are stored.

Rows are made by looking sorted keys up again, and a key that is not found is passed over. But the
keys that are sorted are those of the map, so every look-up succeeds: what comes out is a
permutation of the hosts, and of the ports of each host, and a sum over it is the sum over the map.
-/

namespace ScanQuery

/-! ### Looking keys up again -/

namespace KeyMap

variable {α : Type}

theorem filterMap_get?_keys (m : KeyMap α) : m.keys.filterMap m.get? = m.values := by
  have hentry : ∀ e ∈ m.entries, m.get? e.1 = some e.2 := fun e he => mem_entries_iff.1 he
  rw [keys, values, List.filterMap_map, ← List.filterMap_eq_map]
  exact List.filterMap_congr hentry

/-- Looking the keys up in another order gives the values in another order. -/
theorem filterMap_get?_perm (m : KeyMap α) {keys : List String} (h : keys.Perm m.keys) :
    (keys.filterMap m.get?).Perm m.values := by
  rw [← filterMap_get?_keys]
  exact h.filterMap m.get?

/-- Values that tell their key come out with the keys that were looked up. -/
theorem map_filterMap_get? (m : KeyMap α) (name : α → String)
    (hname : ∀ key v, m.get? key = some v → name v = key) {keys : List String}
    (hkeys : ∀ key ∈ keys, key ∈ m.keys) : (keys.filterMap m.get?).map name = keys := by
  induction keys with
  | nil => rfl
  | cons key rest ih =>
    obtain ⟨v, hv⟩ := Option.isSome_iff_exists.1 (mem_keys_iff.1 (hkeys key List.mem_cons_self))
    rw [List.filterMap_cons_some hv, List.map_cons, hname key v hv,
      ih fun k hk => hkeys k (List.mem_cons_of_mem key hk)]

/-- A sum over the keys, looked up in any order, is the sum over the map. -/
theorem sum_get?_perm (m : KeyMap α) (measure : α → Nat) {keys : List String}
    (h : keys.Perm m.keys) :
    (keys.map fun key => ((m.get? key).map measure).getD 0).sum = m.total measure := by
  have hentry : ∀ e ∈ m.entries, ((m.get? e.1).map measure).getD 0 = measure e.2 := by
    intro e he
    rw [mem_entries_iff.1 he]
    rfl
  rw [(h.map _).sum_eq, total_eq_sum, KeyMap.keys, List.map_map]
  exact congrArg List.sum (List.map_congr_left hentry)

end KeyMap

/-! ### Listings -/

/-- A host and what a row lists of it: ports, each with the plugins found on it. -/
structure Listing where
  host : Host
  ports : List (String × List String)

namespace Listing

/-- The row of a listing. -/
def row (l : Listing) : Row where
  host := l.host.displayName
  affectedPorts := ", ".intercalate (l.ports.map (·.1))
  comment := "|".intercalate (l.ports.map fun x => x.1 ++ ":" ++ ",".intercalate x.2)

/-- The plugin ids of a listing. -/
def ids (l : Listing) : List String :=
  l.ports.flatMap (·.2)

/-- What it means that a listing shows the ports of its host in their order, and on each port the
plugins of all its findings. -/
structure Exact (l : Listing) : Prop where
  ascending : (l.ports.map (·.1)).Pairwise fun a b => Port.compareKeys a b = .lt
  mem_iff : ∀ port ids, (port, ids) ∈ l.ports ↔
    ∃ findings, l.host.findings.get? port = some findings ∧ ids = findings.map (·.pluginId)

/-- What is listed of a host. -/
def ofHost (h : Host) : Listing :=
  ⟨h, h.affectedPorts.map fun port => (port, ((h.findings.get? port).getD []).map (·.pluginId))⟩

theorem row_ofHost (h : Host) : (ofHost h).row = Row.ofHost h := by
  simp only [row, ofHost, Row.ofHost, List.map_map, Function.comp_def, List.map_id', portSeparator]
  rfl

theorem mem_affectedPorts_iff {h : Host} {port : String} :
    port ∈ h.affectedPorts ↔ (h.findings.get? port).isSome := by
  rw [Host.affectedPorts, (Port.sortKeys_perm _).mem_iff, KeyMap.mem_keys_iff]

theorem exact_ofHost (h : Host) : (ofHost h).Exact := by
  constructor
  · have hports : (ofHost h).ports.map (·.1) = h.affectedPorts := by
      simp [ofHost, Function.comp_def]
    rw [hports]
    exact Port.pairwise_lt_sortKeys h.findings.keys_nodup
  · intro port ids
    simp only [ofHost, List.mem_map, Prod.mk.injEq, mem_affectedPorts_iff]
    constructor
    · rintro ⟨_, hport, rfl, rfl⟩
      obtain ⟨findings, hfindings⟩ := Option.isSome_iff_exists.1 hport
      exact ⟨findings, hfindings, by rw [hfindings, Option.getD_some]⟩
    · rintro ⟨findings, hfindings, rfl⟩
      exact ⟨port, by rw [hfindings]; rfl, rfl, by rw [hfindings, Option.getD_some]⟩

/-- As many ids are listed of a host as it has findings. -/
theorem length_ids_ofHost (h : Host) : (ofHost h).ids.length = h.findingCount := by
  have hlength : ∀ port : String, ((((h.findings.get? port).getD []).map (·.pluginId)).length) =
      ((h.findings.get? port).map List.length).getD 0 := by
    intro port
    cases h.findings.get? port with
    | none => rfl
    | some findings => exact List.length_map ..
  rw [ids, ofHost, List.length_flatMap, List.map_map, Host.findingCount,
    ← h.findings.sum_get?_perm List.length (Port.sortKeys_perm _)]
  exact congrArg List.sum (List.map_congr_left fun port _ => hlength port)

end Listing

/-! ### The rows of an answer -/

/-- What it means that rows show the hosts of a collection in the order of addresses, and on them
every finding once. -/
structure ShowsOnce (c : Collection) (listings : List Listing) (rows : List Row) : Prop where
  rows_eq : rows = listings.map Listing.row
  hosts_perm : (listings.map (·.host)).Perm c.hosts.values
  ascending : (listings.map (·.host.ip)).Pairwise fun a b => Address.compareTexts a b = .lt
  exact : ∀ l ∈ listings, l.Exact
  ids_count : (listings.flatMap Listing.ids).length = c.counts.findings

namespace Matches

/-- Whatever is rendered, the keys of all hosts are sorted by then. -/
theorem sortedKeys_render (r : Renderer) (m : Matches) :
    (r.render m).2.sortedKeys = Address.sort m.collection.hosts.keys := by
  have hsorted : (Renderer.prepare (r.render m).2).sortedKeys =
      Address.sort (r.render m).2.collection.hosts.keys := rfl
  rw [prepare_render, (frame_render r m).2.1] at hsorted
  exact hsorted

/-- The rows of a rendered result whose hosts stand under their own addresses and are counted. -/
theorem showsOnce_render {m : Matches}
    (hip : ∀ ip h, m.collection.host? ip = some h → h.ip = ip)
    (hcounts : m.collection.counts = m.collection.actualCounts) (r : Renderer) :
    ShowsOnce m.collection ((r.render m).2.sortedHosts.map Listing.ofHost)
      (Report.ofMatches (r.render m).2).rows := by
  have hkeys := Address.sort_perm m.collection.hosts.keys
  have hhosts : (r.render m).2.sortedHosts =
      (Address.sort m.collection.hosts.keys).filterMap m.collection.hosts.get? := by
    rw [sortedHosts, sortedKeys_render, (frame_render r m).2.1]
    rfl
  have hperm := m.collection.hosts.filterMap_get?_perm hkeys
  have hlisted : ((r.render m).2.sortedHosts.map Listing.ofHost).map (·.host) =
      (r.render m).2.sortedHosts := by
    simp [Listing.ofHost, Function.comp_def]
  constructor
  case rows_eq =>
    rw [Report.ofMatches, List.map_map]
    exact List.map_congr_left fun h _ => (Listing.row_ofHost h).symm
  case hosts_perm =>
    rw [hlisted, hhosts]
    exact hperm
  case ascending =>
    have hips : ((r.render m).2.sortedHosts.map Listing.ofHost).map (·.host.ip) =
        Address.sort m.collection.hosts.keys := by
      have hmap := congrArg (List.map Host.ip) hlisted
      rw [List.map_map] at hmap
      refine hmap.trans ?_
      rw [hhosts]
      exact m.collection.hosts.map_filterMap_get? Host.ip hip fun key hkey => hkeys.mem_iff.1 hkey
    rw [hips]
    exact Address.pairwise_lt_sort m.collection.hosts.keys_nodup
  case exact =>
    intro l hl
    obtain ⟨h, -, rfl⟩ := List.mem_map.1 hl
    exact Listing.exact_ofHost h
  case ids_count =>
    have hcount : m.collection.counts.findings =
        (m.collection.hosts.values.map Host.findingCount).sum := by
      rw [hcounts, KeyMap.values, List.map_map]
      exact m.collection.hosts.total_eq_sum Host.findingCount
    rw [hcount, List.length_flatMap, List.map_map, hhosts, ← (hperm.map _).sum_eq]
    exact congrArg List.sum (List.map_congr_left fun h _ => Listing.length_ids_ofHost h)

end Matches

/-- Where a query selects something, its answer is rendered in every built-in format, and the rows
then show each matched host once, in the order of addresses, with all its ports and findings. -/
theorem rows_show_once (time text : String) (c : Collection) (f : Format)
    (hselected : ∃ x ∈ c.located, (Query.parse text).selects x = true) :
    (∃ output, ((Renderer.builtin f).render (runQuery time text c)).1 = .ok output) ∧
      ∃ listings, ShowsOnce (runQuery time text c).collection listings
        (Report.ofMatches ((Renderer.builtin f).render (runQuery time text c)).2).rows := by
  have hne : c.selected text ≠ [] := by
    obtain ⟨x, hx, hsel⟩ := hselected
    exact List.ne_nil_of_mem (List.mem_filter.2 ⟨hx, hsel⟩)
  have hselection := Query.selection_evaluate (Query.parse text) time c
  have hrows := Matches.showsOnce_render hselection.ip_eq (counts_runQuery time text c) (.builtin f)
  exact ⟨exists_render_builtin (values_runQuery_ne_nil time text c hne) f, _, hrows⟩

/-- A collection of two hosts, one of them with two ports and two findings on one of these. -/
def webScan : Collection :=
  ([("10.0.0.10", "443/tcp", "3"), ("10.0.0.10", "80/tcp", "1"), ("10.0.0.10", "80/tcp", "2"),
      ("10.0.0.9", "22/tcp", "1")] : List (String × String × String)).foldl
    (fun c x => c.addFinding x.1 none x.2.1 ⟨x.2.2, "", "2", "", none⟩) .empty

/-- All four findings are of level `med`, so their ids are listed in two rows. -/
theorem rows_show_webScan :
    (∃ x ∈ webScan.located, (Query.parse "sev=med").selects x = true) ∧
      (runQuery "" "sev=med" webScan).collection.counts = ⟨2, 3, 4⟩ ∧
      (∃ output, ((Renderer.builtin .auto).render (runQuery "" "sev=med" webScan)).1 = .ok output) ∧
      ∃ listings, ShowsOnce (runQuery "" "sev=med" webScan).collection listings
        (Report.ofMatches
          ((Renderer.builtin .auto).render (runQuery "" "sev=med" webScan)).2).rows := by
  have hselected : ∃ x ∈ webScan.located, (Query.parse "sev=med").selects x = true := by
    decide +kernel
  exact ⟨hselected, by decide +kernel, rows_show_once "" "sev=med" webScan .auto hselected⟩

end ScanQuery
