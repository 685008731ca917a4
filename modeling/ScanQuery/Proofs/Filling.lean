import Mathlib.Data.Finset.Card
import Mathlib.Data.Finset.Dedup
import ScanQuery.Collection
import ScanQuery.Proofs.KeyMap

/-!
Collections filled one finding at a time. What such a collection holds is read off the list of
arrivals: under an address and a port the findings that arrived for them, in order; under an
address the name that its first arrival brought; and as many hosts, ports and findings as there
are different addresses, different pairs of address and port, and arrivals. `Filled` says this;
`Filled.receive` is the step and `filled_foldl` the run.
-/

namespace ScanQuery

attribute [ext] Host Collection

/-- A finding on its way into a collection. -/
structure Arrival where
  ip : String
  fqdn : Option String
  port : String
  finding : Finding

/-- The collection with the finding of an arrival. -/
def Collection.receive (c : Collection) (a : Arrival) : Collection :=
  c.addFinding a.ip a.fqdn a.port a.finding

/-- The findings that arrived for a port of an address. -/
def Arrival.listed (arrivals : List Arrival) (ip port : String) : List Finding :=
  (arrivals.filter fun a => a.ip = ip ∧ a.port = port).map (·.finding)

/-- What a map of ports holds for a list of findings: no entry where there is no finding. -/
def entryOf? (findings : List Finding) : Option (List Finding) :=
  if findings = [] then none else some findings

/-- What it means that a collection holds what arrived and nothing else. -/
structure Collection.Filled (arrivals : List Arrival) (c : Collection) : Prop where
  entry_eq : ∀ ip port,
    (c.host? ip).bind (·.findings.get? port) = entryOf? (Arrival.listed arrivals ip port)
  host_eq : ∀ ip,
    (c.host? ip).map (fun h => (h.ip, h.fqdn)) =
      (arrivals.find? (·.ip = ip)).map fun a => (ip, a.fqdn)
  counts_eq : c.actualCounts =
    ⟨(arrivals.map (·.ip)).toFinset.card, (arrivals.map fun a => (a.ip, a.port)).toFinset.card,
      arrivals.length⟩

/-! ### One finding of one host -/

namespace Host

@[simp] theorem ip_addFinding (h : Host) (port : String) (f : Finding) :
    (h.addFinding port f).ip = h.ip := rfl

@[simp] theorem fqdn_addFinding (h : Host) (port : String) (f : Finding) :
    (h.addFinding port f).fqdn = h.fqdn := rfl

theorem get?_addFinding (h : Host) (port port' : String) (f : Finding) :
    (h.addFinding port f).findings.get? port' =
      if port' = port then some ((h.findings.get? port).getD [] ++ [f])
      else h.findings.get? port' := by
  rw [addFinding, KeyMap.get?_alter]

theorem portCount_addFinding (h : Host) (port : String) (f : Finding) :
    (h.addFinding port f).portCount =
      h.portCount + if (h.findings.get? port).isSome then 0 else 1 :=
  KeyMap.size_alter ..

theorem findingCount_addFinding (h : Host) (port : String) (f : Finding) :
    (h.addFinding port f).findingCount = h.findingCount + 1 := by
  have htotal := h.findings.total_alter port (fun present => present.getD [] ++ [f]) List.length
  simp only [findingCount, addFinding]
  cases hget : h.findings.get? port <;>
    simp only [hget, Option.map_none, Option.map_some, Option.getD_none, Option.getD_some,
      List.length_append, List.length_cons, List.length_nil] at htotal <;> omega

end Host

namespace Collection

theorem host?_addFinding (c : Collection) (ip ip' : String) (fqdn : Option String)
    (port : String) (f : Finding) :
    (c.addFinding ip fqdn port f).host? ip' =
      if ip' = ip then some (((c.host? ip).getD (.new ip fqdn)).addFinding port f)
      else c.host? ip' := by
  rw [addFinding, host?, KeyMap.get?_alter]
  rfl

/-- A host that is not there yet has no entry for any port, like a new one. -/
theorem get?_findings_getD_new (h? : Option Host) (ip : String) (fqdn : Option String)
    (port : String) :
    (h?.getD (.new ip fqdn)).findings.get? port = h?.bind (·.findings.get? port) := by
  cases h? <;> rfl

/-- A measure of hosts summed over a collection grows by what one finding adds to its host. -/
theorem total_addFinding (c : Collection) (ip : String) (fqdn : Option String) (port : String)
    (f : Finding) (measure : Host → Nat) (hnew : measure (.new ip fqdn) = 0) :
    (c.addFinding ip fqdn port f).hosts.total measure +
        measure ((c.host? ip).getD (.new ip fqdn)) =
      c.hosts.total measure +
        measure (((c.host? ip).getD (.new ip fqdn)).addFinding port f) := by
  have htotal := c.hosts.total_alter ip (fun h => (h.getD (.new ip fqdn)).addFinding port f) measure
  simp only [addFinding, host?]
  cases hget : c.hosts.get? ip <;>
    simp only [hget, Option.map_none, Option.map_some, Option.getD_none, Option.getD_some]
      at htotal ⊢ <;> omega

/-- Adding a finding adds a host or a port where there was none, and always a finding. -/
theorem actualCounts_addFinding (c : Collection) (ip : String) (fqdn : Option String)
    (port : String) (f : Finding) :
    (c.addFinding ip fqdn port f).actualCounts =
      ⟨c.actualCounts.hosts + (if (c.host? ip).isSome then 0 else 1),
        c.actualCounts.ports +
          (if ((c.host? ip).bind (·.findings.get? port)).isSome then 0 else 1),
        c.actualCounts.findings + 1⟩ := by
  have hports := c.total_addFinding ip fqdn port f Host.portCount rfl
  have hfindings := c.total_addFinding ip fqdn port f Host.findingCount rfl
  rw [Host.portCount_addFinding, get?_findings_getD_new] at hports
  rw [Host.findingCount_addFinding] at hfindings
  simp only [actualCounts, Counts.mk.injEq]
  refine ⟨KeyMap.size_alter .., ?_, ?_⟩
  · omega
  · omega

end Collection

/-- Collections with the same host names and the same entries hold the same hosts. -/
theorem Collection.hosts_ext {c c' : Collection}
    (hname : ∀ ip, (c.host? ip).map (fun h => (h.ip, h.fqdn)) =
      (c'.host? ip).map fun h => (h.ip, h.fqdn))
    (hentry : ∀ ip port, (c.host? ip).bind (·.findings.get? port) =
      (c'.host? ip).bind (·.findings.get? port)) : c.hosts = c'.hosts := by
  refine KeyMap.ext_get? fun ip => ?_
  show c.host? ip = c'.host? ip
  have hname := hname ip
  have hentry := hentry ip
  cases hc : c.host? ip with
  | none =>
    rw [hc, Option.map_none, eq_comm, Option.map_eq_none_iff] at hname
    exact hname.symm
  | some h =>
    rw [hc, Option.map_some, eq_comm, Option.map_eq_some_iff] at hname
    obtain ⟨h', hc', hpair⟩ := hname
    obtain ⟨hip, hfqdn⟩ := Prod.mk.inj hpair
    have hfindings : h.findings = h'.findings := by
      refine KeyMap.ext_get? fun port => ?_
      have hport := hentry port
      rw [hc, hc'] at hport
      exact hport
    rw [hc', Option.some.injEq]
    exact Host.ext hip.symm hfqdn.symm hfindings

/-! ### Arrivals -/

namespace Arrival

theorem listed_append (arrivals arrivals' : List Arrival) (ip port : String) :
    listed (arrivals ++ arrivals') ip port =
      listed arrivals ip port ++ listed arrivals' ip port := by
  rw [listed, List.filter_append, List.map_append, listed, listed]

theorem listed_concat (arrivals : List Arrival) (a : Arrival) (ip port : String) :
    listed (arrivals ++ [a]) ip port =
      listed arrivals ip port ++ if a.ip = ip ∧ a.port = port then [a.finding] else [] := by
  rw [listed_append]
  by_cases h : a.ip = ip ∧ a.port = port <;> simp [listed, h]

theorem listed_eq_nil_iff {arrivals : List Arrival} {ip port : String} :
    listed arrivals ip port = [] ↔ (ip, port) ∉ arrivals.map fun a => (a.ip, a.port) := by
  simp [listed, List.filter_eq_nil_iff]

end Arrival

theorem isSome_entryOf? (findings : List Finding) :
    (entryOf? findings).isSome ↔ findings ≠ [] := by
  by_cases h : findings = [] <;> simp [entryOf?, h]

theorem getD_entryOf? (findings : List Finding) : (entryOf? findings).getD [] = findings := by
  by_cases h : findings = [] <;> simp [entryOf?, h]

/-- The number of different values in a list with one more at its end. -/
theorem card_toFinset_concat {α : Type} [DecidableEq α] (l : List α) (x : α) :
    (l ++ [x]).toFinset.card = l.toFinset.card + if x ∈ l then 0 else 1 := by
  have hins : (l ++ [x]).toFinset = insert x l.toFinset := by
    ext y; simp
  rw [hins]
  by_cases h : x ∈ l
  · rw [Finset.card_insert_of_mem (List.mem_toFinset.2 h), if_pos h, Nat.add_zero]
  · rw [Finset.card_insert_of_notMem (fun hx => h (List.mem_toFinset.1 hx)), if_neg h]

namespace Collection

/-! ### The run -/

theorem filled_empty : Filled [] empty where
  entry_eq _ _ := rfl
  host_eq _ := rfl
  counts_eq := rfl

theorem Filled.host_isSome_iff {arrivals : List Arrival} {c : Collection}
    (hc : Filled arrivals c) (ip : String) :
    (c.host? ip).isSome ↔ ip ∈ arrivals.map (·.ip) := by
  have h := congrArg Option.isSome (hc.host_eq ip)
  rw [Option.isSome_map, Option.isSome_map] at h
  rw [h, List.find?_isSome, List.mem_map]
  simp

/-- The entries after one more arrival are those of the arrivals with it at their end. -/
theorem entry_receive {arrivals : List Arrival} {c : Collection}
    (hc : ∀ ip port, (c.host? ip).bind (·.findings.get? port) =
      entryOf? (Arrival.listed arrivals ip port)) (a : Arrival) (ip port : String) :
    ((c.receive a).host? ip).bind (·.findings.get? port) =
      entryOf? (Arrival.listed (arrivals ++ [a]) ip port) := by
  rw [Collection.receive, host?_addFinding, Arrival.listed_concat]
  by_cases hip : ip = a.ip
  · subst hip
    rw [if_pos rfl, Option.bind_some, Host.get?_addFinding, get?_findings_getD_new,
      get?_findings_getD_new, hc, hc, getD_entryOf?]
    by_cases hport : port = a.port
    · subst hport
      simp [entryOf?]
    · simp [hport, Ne.symm hport]
  · rw [if_neg hip, hc, if_neg fun h => hip h.1.symm, List.append_nil]

/-- The step: a collection that holds what arrived holds one more arrival after it is received. -/
theorem Filled.receive {arrivals : List Arrival} {c : Collection} (hc : Filled arrivals c)
    (a : Arrival) : Filled (arrivals ++ [a]) (c.receive a) where
  entry_eq := entry_receive hc.entry_eq a
  host_eq ip := by
    rw [Collection.receive, host?_addFinding, List.find?_append, Option.map_or]
    by_cases hip : ip = a.ip
    · subst hip
      have h := hc.host_eq a.ip
      rw [← h]
      cases hhost : c.host? a.ip <;> simp [hhost, Host.new] at h ⊢
    · rw [if_neg hip, hc.host_eq]
      simp [Ne.symm hip]
  counts_eq := by
    have hip : (if (c.host? a.ip).isSome then 0 else 1) =
        if a.ip ∈ arrivals.map (·.ip) then 0 else 1 :=
      if_congr (hc.host_isSome_iff a.ip) rfl rfl
    have hport : (if ((c.host? a.ip).bind (·.findings.get? a.port)).isSome then 0 else 1) =
        if (a.ip, a.port) ∈ arrivals.map (fun a => (a.ip, a.port)) then 0 else 1 := by
      refine if_congr ?_ rfl rfl
      rw [hc.entry_eq, isSome_entryOf?, ne_eq, Arrival.listed_eq_nil_iff, not_not]
    rw [Collection.receive, actualCounts_addFinding, hip, hport, hc.counts_eq]
    simp only [List.map_append, List.map_cons, List.map_nil, card_toFinset_concat,
      List.length_append, List.length_cons, List.length_nil, Nat.zero_add]
    -- only the two ways to decide equality of pairs differ
    congr

/-- The run: receiving every arrival of a list leaves a collection that holds them. -/
theorem filled_foldl (arrivals : List Arrival) :
    Filled arrivals (arrivals.foldl Collection.receive empty) := by
  induction arrivals using List.reverseRecOn with
  | nil => exact filled_empty
  | append_singleton arrivals a ih =>
    rw [List.foldl_append]
    exact ih.receive a

end Collection

end ScanQuery
