import Mathlib.Data.List.Perm.Subperm
import ScanQuery.Output.Fetch
import ScanQuery.Proofs.KeyMap
import ScanQuery.Proofs.Sorting

/-!
The states a result can be in. A result starts empty or as the answer to a query; from then on
findings and plugins are added, counts taken, orders applied and texts rendered, in any order and
number. The sorted keys may lag behind the hosts, but never run ahead of them: `Tracked` says that
they are strictly ascending and name hosts that are held. Hosts are only ever added, so every
action keeps this, and `Reachable.tracked` has it for every run.
-/

namespace ScanQuery

namespace Matches

/-- What can be done to a result. -/
inductive Action where
  | addFinding (ip : String) (fqdn : Option String) (port : String) (f : Finding)
  | addPlugin (f : Finding)
  | updateCounts
  | sortPlugins
  | sortHosts
  | resolveLayout
  | render (renderer : Renderer)
  | fetch (renderer : Renderer)

/-- The result as an action leaves it, whether or not the action fails. -/
def act (m : Matches) : Action → Matches
  | .addFinding ip fqdn port f => m.addFinding ip fqdn port f
  | .addPlugin f => m.addPlugin f
  | .updateCounts => m.updateCounts
  | .sortPlugins => m.sortPlugins
  | .sortHosts => m.sortHosts
  | .resolveLayout => m.resolveLayout.2
  | .render renderer => (renderer.render m).2
  | .fetch renderer => (m.fetch renderer).2

/-- The results that actions lead to from an empty one or from the answer to a query. -/
inductive Reachable : Matches → Prop where
  | new (time query : String) : Reachable (.new time query)
  | run (time text : String) (c : Collection) : Reachable (runQuery time text c)
  | act {m : Matches} (action : Action) (hm : Reachable m) : Reachable (m.act action)

/-- The sorted keys are strictly ascending, and each has a host. -/
structure Tracked (m : Matches) : Prop where
  ascending : m.sortedKeys.Pairwise fun a b => Address.compareTexts a b = .lt
  held : ∀ ip ∈ m.sortedKeys, ip ∈ m.collection.hosts.keys

/-! ### What the actions leave alone -/

@[simp] theorem collection_ensureSorted (m : Matches) :
    m.ensureSorted.collection = m.collection := by
  unfold ensureSorted; split <;> rfl

@[simp] theorem header_ensureSorted (m : Matches) : m.ensureSorted.header = m.header := by
  unfold ensureSorted; split <;> rfl

@[simp] theorem plugins_ensureSorted (m : Matches) : m.ensureSorted.plugins = m.plugins := by
  unfold ensureSorted; split <;> rfl

@[simp] theorem sharedPorts_ensureSorted (m : Matches) :
    m.ensureSorted.sharedPorts = m.sharedPorts := by
  unfold ensureSorted; split <;> rfl

/-- A decision leaves the sorted result, with the ports of a list noted in it. -/
theorem resolveLayout_cases (m : Matches) :
    (∃ e, m.resolveLayout = (.error e, m.ensureSorted)) ∨
      m.resolveLayout = (.ok .table, m.ensureSorted) ∨
      ∃ ports, m.resolveLayout = (.ok (.list ports), { m.ensureSorted with sharedPorts := ports })
      := by
  rw [resolveLayout]
  cases m.ensureSorted.comparePorts with
  | error e => exact .inl ⟨e, rfl⟩
  | ok found =>
    obtain ⟨first, ports, other⟩ := found
    cases other with
    | some _ => exact .inr (.inl rfl)
    | none => exact .inr (.inr ⟨ports, rfl⟩)

theorem header_resolveLayout (m : Matches) :
    m.resolveLayout.2.header = m.ensureSorted.header := by
  rcases m.resolveLayout_cases with ⟨e, h⟩ | h | ⟨ports, h⟩ <;> rw [h]

theorem plugins_resolveLayout (m : Matches) :
    m.resolveLayout.2.plugins = m.ensureSorted.plugins := by
  rcases m.resolveLayout_cases with ⟨e, h⟩ | h | ⟨ports, h⟩ <;> rw [h]

theorem collection_resolveLayout (m : Matches) :
    m.resolveLayout.2.collection = m.ensureSorted.collection := by
  rcases m.resolveLayout_cases with ⟨e, h⟩ | h | ⟨ports, h⟩ <;> rw [h]

theorem sortedKeys_resolveLayout (m : Matches) :
    m.resolveLayout.2.sortedKeys = m.ensureSorted.sortedKeys := by
  rcases m.resolveLayout_cases with ⟨e, h⟩ | h | ⟨ports, h⟩ <;> rw [h]

/-- Rendering changes a result as the decision on its layout does, also when it fails. -/
theorem render_snd (renderer : Renderer) (m : Matches) :
    (renderer.render m).2 = (Renderer.prepare m).resolveLayout.2 := by
  unfold Renderer.render
  split <;> next heq => rw [heq]

theorem fetch_snd (m : Matches) (renderer : Renderer) :
    (m.fetch renderer).2 = if m.isEmpty then m else (renderer.render m).2 := by
  unfold fetch; split <;> rfl

/-! ### The invariant -/

/-- Two strictly ascending addresses differ. -/
theorem ne_of_compareTexts_lt {a b : String} (h : Address.compareTexts a b = .lt) : a ≠ b := by
  rintro rfl
  have hself : Address.compareTexts a a = .eq := Std.ReflCmp.compare_self
  exact nomatch hself.symm.trans h

theorem Tracked.nodup {m : Matches} (hm : Tracked m) : m.sortedKeys.Nodup :=
  hm.ascending.imp ne_of_compareTexts_lt

/-- Adding a host keeps the keys that are there. -/
theorem mem_keys_addFinding {c : Collection} {ip : String} {fqdn : Option String} {port : String}
    {f : Finding} {key : String} (h : key ∈ c.hosts.keys) :
    key ∈ (c.addFinding ip fqdn port f).hosts.keys := by
  rw [KeyMap.mem_keys_iff] at h ⊢
  rw [Collection.addFinding, KeyMap.get?_alter]
  split
  · rfl
  · exact h

theorem tracked_of_sortedKeys_eq_nil {m : Matches} (h : m.sortedKeys = []) : Tracked m where
  ascending := h ▸ .nil
  held ip hip := by rw [h] at hip; exact nomatch hip

theorem sortedKeys_foldl_add (found : List (Host × String × Finding)) (m : Matches) :
    (found.foldl Matches.add m).sortedKeys = m.sortedKeys := by
  induction found generalizing m with
  | nil => rfl
  | cons x rest ih => exact ih (m.add x)

theorem tracked_sortHosts (m : Matches) : Tracked m.sortHosts where
  ascending := Address.pairwise_lt_sort m.collection.hosts.keys_nodup
  held _ hip := (Address.sort_perm _).mem_iff.1 hip

theorem Tracked.ensureSorted {m : Matches} (hm : Tracked m) : Tracked m.ensureSorted := by
  unfold Matches.ensureSorted
  split
  · exact hm
  · exact tracked_sortHosts m

/-- The decision on the layout leaves the keys and hosts of the sorted result. -/
theorem Tracked.resolveLayout {m : Matches} (hm : Tracked m) : Tracked m.resolveLayout.2 where
  ascending := sortedKeys_resolveLayout m ▸ hm.ensureSorted.ascending
  held := by
    rw [sortedKeys_resolveLayout, collection_resolveLayout]
    exact hm.ensureSorted.held

theorem tracked_prepare (m : Matches) : Tracked (Renderer.prepare m) :=
  tracked_sortHosts m.sortPlugins

/-- The step: every action keeps the sorted keys ascending and held. -/
theorem Tracked.act {m : Matches} (hm : Tracked m) (action : Action) : Tracked (m.act action) := by
  have hrender : ∀ renderer : Renderer, Tracked (renderer.render m).2 := fun renderer => by
    rw [render_snd]
    exact (tracked_prepare m).resolveLayout
  cases action with
  | addFinding ip fqdn port f =>
    exact ⟨hm.ascending, fun key h => mem_keys_addFinding (hm.held key h)⟩
  | addPlugin f => exact ⟨hm.ascending, hm.held⟩
  | updateCounts => exact ⟨hm.ascending, hm.held⟩
  | sortPlugins => exact ⟨hm.ascending, hm.held⟩
  | sortHosts => exact tracked_sortHosts m
  | resolveLayout => exact hm.resolveLayout
  | render renderer => exact hrender renderer
  | fetch renderer =>
    show Tracked (m.fetch renderer).2
    rw [fetch_snd]
    split
    · exact hm
    · exact hrender renderer

/-- The run: the sorted keys of every reachable result are ascending and held. -/
theorem Reachable.tracked {m : Matches} (hm : Reachable m) : Tracked m := by
  induction hm with
  | new time query => exact tracked_of_sortedKeys_eq_nil rfl
  | run time text c => exact tracked_of_sortedKeys_eq_nil (sortedKeys_foldl_add _ _)
  | act action _ ih => exact ih.act action

/-- When the layout is decided, the sorted keys are the keys of all hosts. -/
theorem Tracked.sortedKeys_perm {m : Matches} (hm : Tracked m) :
    m.ensureSorted.sortedKeys.Perm m.collection.hosts.keys := by
  unfold Matches.ensureSorted
  split
  · next hlength =>
    -- as many different held keys as there are hosts
    refine (hm.nodup.subperm hm.held).perm_of_length_le ?_
    rw [hlength, KeyMap.keys, List.length_map]
    exact Nat.le_refl _
  · exact Address.sort_perm _

end Matches

end ScanQuery
