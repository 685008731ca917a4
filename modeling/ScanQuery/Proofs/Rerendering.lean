import ScanQuery.Proofs.PluginLists
import ScanQuery.Proofs.ResultState

/-!
Rendering a result again. Every rendering leaves the result sorted and its layout decided, also
when it fails afterwards, and nothing of this is undone before the next one. But sorting what is
sorted changes nothing, since the sorting of plugins is stable, and the decision on the layout
reads the hosts and the sorted keys only and notes the same ports again. So what a rendering leaves
is rendered like what it found, and in a row of renderings each gives the answer that it would have
given alone.
-/

namespace ScanQuery

/-! ### Sorting what is sorted -/

namespace Matches

theorem ensureSorted_of_length {m : Matches}
    (h : m.sortedKeys.length = m.collection.hosts.size) : m.ensureSorted = m :=
  if_pos h

theorem length_sort_keys (m : Matches) :
    (Address.sort m.collection.hosts.keys).length = m.collection.hosts.size := by
  rw [(Address.sort_perm _).length_eq, KeyMap.keys, List.length_map]
  rfl

theorem length_sortedKeys_ensureSorted (m : Matches) :
    m.ensureSorted.sortedKeys.length = m.collection.hosts.size := by
  unfold ensureSorted
  split
  · next h => exact h
  · exact m.length_sort_keys

/-! ### Deciding what is decided -/

variable {m m' : Matches}

theorem firstOther_congr (hcollection : m.collection = m'.collection) (ports ips : List String) :
    m.firstOther ports ips = m'.firstOther ports ips := by
  induction ips with
  | nil => rfl
  | cons ip rest ih => simp only [firstOther, portsOf, hcollection, ih]

/-- Comparing ports reads neither the time nor the plugins nor the ports noted. -/
theorem comparePorts_congr (hquery : m.header.query = m'.header.query)
    (hcollection : m.collection = m'.collection) (hkeys : m.sortedKeys = m'.sortedKeys) :
    m.comparePorts = m'.comparePorts := by
  have hother : ∀ ports, m.firstOther ports = m'.firstOther ports :=
    fun ports => funext (firstOther_congr hcollection ports)
  have hports : m.portsOf = m'.portsOf := by
    funext ip
    rw [portsOf, portsOf, hcollection]
  rw [comparePorts, comparePorts, hkeys, hports, hquery]
  simp only [hother]

/-- The decision on a layout is the same a second time, and leaves the result as it is. -/
theorem resolveLayout_resolveLayout (m : Matches) :
    m.resolveLayout.2.resolveLayout = m.resolveLayout := by
  have hagain : ∀ s : Matches, s.header = m.ensureSorted.header →
      s.collection = m.ensureSorted.collection → s.sortedKeys = m.ensureSorted.sortedKeys →
      s.ensureSorted = s ∧ s.comparePorts = m.ensureSorted.comparePorts := by
    intro s hheader hcollection hkeys
    refine ⟨ensureSorted_of_length ?_,
      comparePorts_congr (congrArg Header.query hheader) hcollection hkeys⟩
    rw [hkeys, hcollection, collection_ensureSorted, length_sortedKeys_ensureSorted]
  obtain ⟨hsorted, hcompare⟩ := hagain m.resolveLayout.2 (header_resolveLayout m)
    (collection_resolveLayout m) (sortedKeys_resolveLayout m)
  rw [resolveLayout, hsorted, hcompare, resolveLayout]
  cases m.ensureSorted.comparePorts with
  | error e => rfl
  | ok found =>
    obtain ⟨first, ports, other⟩ := found
    cases other <;> rfl

/-! ### Rendering what is rendered -/

theorem prepare_of_sorted (hplugins : Plugin.sortBySeverity m.plugins = m.plugins)
    (hkeys : Address.sort m.collection.hosts.keys = m.sortedKeys) :
    Renderer.prepare m = m := by
  show (⟨m.header, Plugin.sortBySeverity m.plugins, m.collection,
    Address.sort m.collection.hosts.keys, m.sharedPorts⟩ : Matches) = m
  rw [hplugins, hkeys]

/-- What a rendering leaves is ready for the next one. -/
theorem prepare_render (r : Renderer) (m : Matches) :
    Renderer.prepare (r.render m).2 = (r.render m).2 := by
  have hsorted : (Renderer.prepare m).ensureSorted = Renderer.prepare m :=
    ensureSorted_of_length m.length_sort_keys
  rw [render_snd]
  refine prepare_of_sorted ?_ ?_
  · rw [plugins_resolveLayout, hsorted]
    exact Plugin.sortBySeverity_sortBySeverity m.plugins
  · rw [collection_resolveLayout, sortedKeys_resolveLayout, hsorted]
    rfl

/-- What a rendering leaves is rendered like what it found. -/
theorem render_render (r r' : Renderer) (m : Matches) :
    r.render (r'.render m).2 = r.render m := by
  have hresolve : (Renderer.prepare (r'.render m).2).resolveLayout =
      (Renderer.prepare m).resolveLayout := by
    rw [prepare_render, render_snd, resolveLayout_resolveLayout]
  rw [Renderer.render, hresolve, Renderer.render]

/-- What a rendering does not touch. -/
theorem frame_render (r : Renderer) (m : Matches) :
    (r.render m).2.header = m.header ∧ (r.render m).2.collection = m.collection ∧
      (r.render m).2.plugins.Perm m.plugins := by
  rw [render_snd, header_resolveLayout, collection_resolveLayout, plugins_resolveLayout,
    header_ensureSorted, collection_ensureSorted, plugins_ensureSorted]
  exact ⟨rfl, rfl, Plugin.sortBySeverity_perm m.plugins⟩

/-- What fetching leaves is fetched like what it found. -/
theorem fetch_fetch (m : Matches) (r r' : Renderer) : (m.fetch r').2.fetch r = m.fetch r := by
  rw [fetch_snd]
  by_cases hempty : m.isEmpty
  · rw [if_pos hempty]
  · have hleft : (r'.render m).2.isEmpty = m.isEmpty := by
      rw [isEmpty, (frame_render r' m).2.1, isEmpty]
    rw [if_neg hempty, fetch, hleft, if_neg hempty, render_render, fetch, if_neg hempty]

theorem frame_fetch (m : Matches) (r : Renderer) :
    (m.fetch r).2.header = m.header ∧ (m.fetch r).2.collection = m.collection ∧
      (m.fetch r).2.plugins.Perm m.plugins := by
  rw [fetch_snd]
  split
  · exact ⟨rfl, rfl, .refl _⟩
  · exact frame_render r m

/-! ### Fetching in a row -/

/-- The answers of fetching with one renderer after another, and the result as each leaves it. -/
def fetches (m : Matches) : List Renderer → List (Except OutputError String × Matches)
  | [] => []
  | r :: rest => m.fetch r :: (m.fetch r).2.fetches rest

/-- In a row of renderers each finds what it would have found at the beginning. -/
theorem fetches_eq_map (m : Matches) (renderers : List Renderer) :
    m.fetches renderers = renderers.map m.fetch := by
  induction renderers generalizing m with
  | nil => rfl
  | cons r rest ih =>
    have hrest : (m.fetch r).2.fetch = m.fetch := funext fun r' => fetch_fetch m r' r
    rw [fetches, ih, hrest, List.map_cons]

end Matches

/-- Fetching the answer to a query with one renderer after another gives what each would give for
a fresh answer, errors included, and leaves header, hosts, counts and the set of plugins alone. -/
theorem fetches_runQuery (time text : String) (c : Collection) (renderers : List Renderer) :
    ((runQuery time text c).fetches renderers).map (·.1) =
        renderers.map (fun r => ((runQuery time text c).fetch r).1) ∧
      ∀ left ∈ ((runQuery time text c).fetches renderers).map (·.2),
        left.header = (runQuery time text c).header ∧
          left.collection = (runQuery time text c).collection ∧
          left.plugins.Perm (runQuery time text c).plugins := by
  rw [Matches.fetches_eq_map, List.map_map]
  refine ⟨rfl, fun left hleft => ?_⟩
  rw [List.map_map] at hleft
  obtain ⟨r, -, rfl⟩ := List.mem_map.1 hleft
  exact Matches.frame_fetch _ r

/-- A collection of one finding. -/
def telnetScan : Collection :=
  Collection.empty.addFinding "10.0.0.9" none "23/tcp" ⟨"10281", "Telnet Server", "2", "", none⟩

/-- The result of a query for it. -/
def telnetMatches : Matches :=
  runQuery "" "port=23" telnetScan

/-- A template that asks for a field that there is not. -/
def brokenTemplate : Renderer :=
  .custom (.single ⟨"ports.j2", "{{ ports }}"⟩)

/-- A template that fails behind another format leaves the result as it was held. -/
theorem fetches_telnet :
    ((telnetMatches.fetch (.builtin .json)).2.fetch brokenTemplate).2 ∈
        (telnetMatches.fetches [.builtin .json, brokenTemplate]).map (·.2) ∧
      ((telnetMatches.fetch (.builtin .json)).2.fetch brokenTemplate).2.collection =
        telnetMatches.collection := by
  have hmem : ((telnetMatches.fetch (.builtin .json)).2.fetch brokenTemplate).2 ∈
      (telnetMatches.fetches [.builtin .json, brokenTemplate]).map (·.2) :=
    List.mem_cons_of_mem _ List.mem_cons_self
  obtain ⟨-, hleft⟩ := fetches_runQuery "" "port=23" telnetScan [.builtin .json, brokenTemplate]
  exact ⟨hmem, (hleft _ hmem).2.1⟩

end ScanQuery
