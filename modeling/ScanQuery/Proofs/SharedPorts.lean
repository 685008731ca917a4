import ScanQuery.Proofs.LayoutDecision
import ScanQuery.Report

/-!
When the noted ports are right. A decision for a list notes the ports that all hosts share; a
decision for a table notes nothing and takes nothing back. So right after a decision the noted
ports are those of every host if the hosts are listed, and otherwise they are what an earlier
decision left. They are therefore right as long as no finding is added behind a decision: hosts
that shared their ports once still do. When one is added, ports that are shared no longer may be
shown above a table.
-/

namespace ScanQuery

namespace Matches

/-- Ports are noted in a list only, and they are those of every host; above a table none are
shown. -/
def NotesRightly (layout : Layout) (m : Matches) : Prop :=
  (m.sharedPorts ≠ [] → layout.isList ∧
    ∀ h ∈ m.collection.hosts.values, h.affectedPorts = m.sharedPorts) ∧
  (layout = .table → (Report.ofMatches m).sharedPorts = "")

/-- Whether an action adds a finding. -/
def Action.addsFinding : Action → Bool
  | .addFinding .. => true
  | _ => false

/-- The result as actions leave it, one after another. -/
def acts (m : Matches) (actions : List Action) : Matches :=
  actions.foldl act m

/-! ### What a decision notes -/

theorem sharedPorts_of_list {m : Matches} {ports : List String}
    (hlist : m.resolveLayout.1 = .ok (.list ports)) : m.resolveLayout.2.sharedPorts = ports := by
  rcases m.resolveLayout_cases with ⟨e, h⟩ | h | ⟨ports', h⟩ <;> rw [h] at hlist
  · exact nomatch hlist
  · exact nomatch hlist
  · obtain rfl : ports' = ports := by simpa using hlist
    rw [h]

theorem sharedPorts_of_not_list {m : Matches}
    (hother : ∀ ports, m.resolveLayout.1 ≠ .ok (.list ports)) :
    m.resolveLayout.2.sharedPorts = m.sharedPorts := by
  rcases m.resolveLayout_cases with ⟨e, h⟩ | h | ⟨ports, h⟩
  · rw [h, sharedPorts_ensureSorted]
  · rw [h, sharedPorts_ensureSorted]
  · exact absurd (congrArg Prod.fst h) (hother ports)

theorem hosts_resolveLayout (m : Matches) : m.resolveLayout.2.collection.hosts =
    m.collection.hosts := by
  rw [collection_resolveLayout, collection_ensureSorted]

/-- The ports of a list are the affected ports of every host. -/
theorem Tracked.affectedPorts_of_list {m : Matches} (hm : Tracked m) {ports : List String}
    (hlist : m.resolveLayout.1 = .ok (.list ports)) :
    ∀ h ∈ m.collection.hosts.values, h.affectedPorts = ports := by
  intro h hmem
  rcases hm.layout_cases with ⟨-, hres⟩ | ⟨first, hfirst, hsame, hres⟩ | ⟨-, hres⟩
  · exact nomatch hres.symm.trans hlist
  · obtain rfl : first.affectedPorts = ports := by simpa [hres] using hlist
    rw [Host.affectedPorts_eq_iff]
    exact hsame h hmem first hfirst
  · exact nomatch hres.symm.trans hlist

/-- Right after a decision the noted ports are right unless there is a table and an earlier
decision left some. -/
theorem Tracked.notesRightly_iff {m : Matches} (hm : Tracked m) {layout : Layout}
    (hlayout : m.resolveLayout.1 = .ok layout) :
    NotesRightly layout m.resolveLayout.2 ↔ (layout = .table → m.sharedPorts = []) := by
  cases layout with
  | list ports =>
    have hnoted := sharedPorts_of_list hlayout
    refine iff_of_true ⟨fun _ => ⟨rfl, ?_⟩, nofun⟩ nofun
    rw [hosts_resolveLayout, hnoted]
    exact hm.affectedPorts_of_list hlayout
  | table =>
    have hnoted : m.resolveLayout.2.sharedPorts = m.sharedPorts :=
      sharedPorts_of_not_list fun ports hlist => nomatch hlayout.symm.trans hlist
    constructor
    · intro hright _
      by_contra hne
      rw [← hnoted] at hne
      exact Bool.false_ne_true (hright.1 hne).1
    · intro hnone
      rw [hnone rfl] at hnoted
      refine ⟨fun hne => absurd hnoted hne, fun _ => ?_⟩
      rw [Report.ofMatches, hnoted]
      rfl

/-! ### Results that stay as they are -/

/-- Ports are noted only while all hosts share theirs. -/
structure Settled (hosts : KeyMap Host) (m : Matches) : Prop where
  tracked : Tracked m
  hosts_eq : m.collection.hosts = hosts
  same : m.sharedPorts ≠ [] → m.SamePorts

theorem samePorts_congr {m m' : Matches} (h : m.collection.hosts = m'.collection.hosts) :
    m.SamePorts ↔ m'.SamePorts := by
  rw [SamePorts, SamePorts, h]

theorem Settled.resolveLayout {hosts : KeyMap Host} {m : Matches} (hm : Settled hosts m) :
    Settled hosts m.resolveLayout.2 where
  tracked := hm.tracked.resolveLayout
  hosts_eq := (hosts_resolveLayout m).trans hm.hosts_eq
  same := by
    intro hne
    rw [samePorts_congr (hosts_resolveLayout m)]
    rcases hm.tracked.layout_cases with ⟨-, hres⟩ | ⟨h, hmem, hsame, -⟩ | ⟨-, hres⟩
    · rw [sharedPorts_of_not_list (by simp [hres])] at hne
      exact hm.same hne
    · exact hsame
    · rw [sharedPorts_of_not_list (by simp [hres])] at hne
      exact hm.same hne

theorem Settled.prepare {hosts : KeyMap Host} {m : Matches} (hm : Settled hosts m) :
    Settled hosts (Renderer.prepare m) where
  tracked := tracked_prepare m
  hosts_eq := hm.hosts_eq
  same := hm.same

/-- The step: an action that adds no finding keeps the hosts, and ports that were shared stay so. -/
theorem Settled.act {hosts : KeyMap Host} {m : Matches} (hm : Settled hosts m) {action : Action}
    (hadds : action.addsFinding = false) : Settled hosts (m.act action) := by
  have hrender : ∀ renderer : Renderer, Settled hosts (renderer.render m).2 := by
    intro renderer
    rw [render_snd]
    exact hm.prepare.resolveLayout
  cases action with
  | addFinding ip fqdn port f => exact nomatch hadds
  | addPlugin f => exact ⟨hm.tracked.act (.addPlugin f), hm.hosts_eq, hm.same⟩
  | updateCounts => exact ⟨hm.tracked.act .updateCounts, hm.hosts_eq, hm.same⟩
  | sortPlugins => exact ⟨hm.tracked.act .sortPlugins, hm.hosts_eq, hm.same⟩
  | sortHosts => exact ⟨tracked_sortHosts m, hm.hosts_eq, hm.same⟩
  | resolveLayout => exact hm.resolveLayout
  | render renderer => exact hrender renderer
  | fetch renderer =>
    show Settled hosts (m.fetch renderer).2
    rw [fetch_snd]
    split
    · exact hm
    · exact hrender renderer

/-- The run: the same of any number of such actions. -/
theorem Settled.acts {hosts : KeyMap Host} {actions : List Action}
    (hadds : ∀ action ∈ actions, action.addsFinding = false) {m : Matches}
    (hm : Settled hosts m) : Settled hosts (m.acts actions) := by
  induction actions generalizing m with
  | nil => exact hm
  | cons action rest ih =>
    exact ih (fun a ha => hadds a (List.mem_cons_of_mem action ha))
      (hm.act (hadds action List.mem_cons_self))

/-- In a settled result every decision leaves the noted ports right. -/
theorem Settled.notesRightly {hosts : KeyMap Host} {m : Matches} (hm : Settled hosts m)
    {layout : Layout} (hlayout : m.resolveLayout.1 = .ok layout) :
    NotesRightly layout m.resolveLayout.2 := by
  rw [hm.tracked.notesRightly_iff hlayout]
  rintro rfl
  by_contra hne
  exact hm.tracked.table_iff.1 hlayout (hm.same hne)

/-- The noted ports are right after a decision in a reachable state exactly if the hosts are
listed or no earlier decision left any; and they are right for good once nothing is added. -/
theorem sharedPorts_right {m : Matches} (hm : Reachable m) :
    (∀ layout, m.resolveLayout.1 = .ok layout →
      (NotesRightly layout m.resolveLayout.2 ↔ (layout = .table → m.sharedPorts = []))) ∧
    (m.sharedPorts = [] → ∀ actions : List Action,
      (∀ action ∈ actions, action.addsFinding = false) →
        ∀ layout, (m.acts actions).resolveLayout.1 = .ok layout →
          NotesRightly layout (m.acts actions).resolveLayout.2) := by
  refine ⟨fun layout => hm.tracked.notesRightly_iff, ?_⟩
  intro hnone actions hadds layout hlayout
  have hsettled : Settled m.collection.hosts m :=
    ⟨hm.tracked, rfl, fun hne => absurd hnone hne⟩
  exact (hsettled.acts hadds).notesRightly hlayout

/-- A result with one host. -/
def alone : Matches :=
  (Matches.new "" "sev>=med").addFinding "10.0.0.9" none "80/tcp" ⟨"1", "a", "2", "", none⟩

/-- However it is rendered, the port of its host is noted rightly. -/
theorem alone_notes_rightly :
    Reachable alone ∧
      (alone.acts [.addPlugin ⟨"1", "a", "2", "", none⟩, .render (.builtin .table)]
        ).resolveLayout.1 = .ok (.list ["80/tcp"]) ∧
      NotesRightly (.list ["80/tcp"])
        (alone.acts [.addPlugin ⟨"1", "a", "2", "", none⟩, .render (.builtin .table)]
          ).resolveLayout.2 := by
  have hreach : Reachable alone := .act (.addFinding ..) (.new ..)
  have hsome : (alone.acts [.addPlugin ⟨"1", "a", "2", "", none⟩, .render (.builtin .table)]
      ).resolveLayout.1.toOption = some (.list ["80/tcp"]) := by decide +kernel
  have hlist : (alone.acts [.addPlugin ⟨"1", "a", "2", "", none⟩, .render (.builtin .table)]
      ).resolveLayout.1 = .ok (.list ["80/tcp"]) := by
    revert hsome
    cases (alone.acts _).resolveLayout.1 with
    | error e => exact nofun
    | ok layout => exact fun hsome => congrArg Except.ok (Option.some.inj hsome)
  exact ⟨hreach, hlist, (sharedPorts_right hreach).2 rfl _ (by decide) _ hlist⟩

/-- The same result with a host on another port, added after the layout was decided. -/
def outdated : Matches :=
  alone.resolveLayout.2.addFinding "10.0.0.10" none "443/tcp" ⟨"1", "a", "2", "", none⟩

/-- What was noted for the list is still shown above the table. -/
theorem outdated_shows_ports_in_table :
    Reachable outdated ∧ outdated.resolveLayout.1 = .ok .table ∧
      outdated.resolveLayout.2.sharedPorts = ["80/tcp"] ∧
      (Report.ofMatches outdated.resolveLayout.2).sharedPorts = "80/tcp" ∧
      ¬ NotesRightly .table outdated.resolveLayout.2 := by
  have hreach : Reachable outdated :=
    .act (.addFinding ..) (.act .resolveLayout (.act (.addFinding ..) (.new ..)))
  have hother : ¬ outdated.SamePorts := by
    have hkeys : outdated.collection.hosts.values.map (·.findings.keys) =
        [["443/tcp"], ["80/tcp"]] := by decide +kernel
    obtain ⟨h, hh, hport⟩ := List.mem_map.1 (hkeys ▸ List.mem_cons_self)
    obtain ⟨h', hh', hport'⟩ :=
      List.mem_map.1 (hkeys ▸ List.mem_cons_of_mem ["443/tcp"] List.mem_cons_self)
    intro hsame
    have hiff := hsame h hh h' hh' "443/tcp"
    rw [hport, hport'] at hiff
    exact absurd (hiff.1 List.mem_cons_self) (by decide)
  have htable := hreach.tracked.table_iff.2 hother
  have hnoted : outdated.resolveLayout.2.sharedPorts = ["80/tcp"] := by
    rw [sharedPorts_of_not_list (by simp [htable])]
    exact (by decide +kernel : alone.resolveLayout.2.sharedPorts = ["80/tcp"])
  have hshown : (Report.ofMatches outdated.resolveLayout.2).sharedPorts = "80/tcp" := by
    rw [Report.ofMatches, hnoted]
    rfl
  refine ⟨hreach, htable, hnoted, hshown, fun hright => ?_⟩
  rw [hright.2 rfl] at hshown
  exact absurd hshown (by decide)

end Matches

end ScanQuery
