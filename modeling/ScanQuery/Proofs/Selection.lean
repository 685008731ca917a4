import Mathlib.Algebra.BigOperators.Group.List.Basic
import ScanQuery.Matches
import ScanQuery.Proofs.Filling

/-!
Evaluating a query filters the collection exactly. A result holds, under an address and a port, the
findings that the query selects on the hosts of that address, host after host in the order of
their keys and each host's in their stored order; nothing is lost, invented or moved, and no empty
entry is left. Hosts are regrouped by their address, whatever key they stand under.

The evaluator is a filter followed by a fold, so a result is a collection filled with the selected
findings; what remains is to read that list of arrivals off the hosts.
-/

namespace ScanQuery

namespace Query

/-- The findings on a port of a host that a query selects, in their stored order. -/
def selectedOn (q : Query) (h : Host) (port : String) : List Finding :=
  ((h.findings.get? port).getD []).filter fun f => q.holds ⟨h.ip, port, f⟩

/-- Whether a query selects a finding of a host. -/
def touches (q : Query) (h : Host) : Bool :=
  h.findings.keys.any fun port => q.selectedOn h port ≠ []

end Query

/-- The hosts of an address, in the order of their keys. -/
def Collection.hostsAt (c : Collection) (ip : String) : List Host :=
  c.hosts.values.filter (·.ip = ip)

/-- The findings that a query selects under an address and a port. -/
def Query.selectedAt (q : Query) (c : Collection) (ip port : String) : List Finding :=
  (c.hostsAt ip).flatMap fun h => q.selectedOn h port

/-- What it means that a collection holds what a query selects in another one. -/
structure Query.Selection (q : Query) (c result : Collection) : Prop where
  entry_eq : ∀ ip port,
    (result.host? ip).bind (·.findings.get? port) =
      if q.selectedAt c ip port = [] then none else some (q.selectedAt c ip port)
  host_iff : ∀ ip, (result.host? ip).isSome ↔ ∃ h ∈ c.hostsAt ip, q.touches h
  ip_eq : ∀ ip h, result.host? ip = some h → h.ip = ip
  fqdn_eq : ∀ ip h, result.host? ip = some h →
    ((c.hostsAt ip).find? q.touches).map (·.fqdn) = some h.fqdn
  hosts_eq : result.counts.hosts = ((c.hosts.values.filter q.touches).map (·.ip)).toFinset.card
  ports_eq : result.counts.ports =
    (c.hosts.values.flatMap fun h =>
      (h.findings.keys.filter fun port => q.selectedOn h port ≠ []).map fun port =>
        (h.ip, port)).toFinset.card
  findings_eq : result.counts.findings =
    (c.hosts.values.map fun h =>
      (h.findings.keys.map fun port => (q.selectedOn h port).length).sum).sum
  plugins_eq : result.plugins = []

/-! ### The arrivals of one host -/

namespace Host

/-- The findings of one port among all findings of a host. -/
theorem filter_located (h : Host) (port : String) :
    h.located.filter (·.1 = port) = ((h.findings.get? port).getD []).map fun f => (port, f) := by
  have hport : ∀ e : String × List Finding,
      (e.2.map fun f => (e.1, f)).filter (·.1 = port) =
        if e.1 = port then e.2.map fun f => (port, f) else [] := by
    intro e
    by_cases he : e.1 = port <;> simp [List.filter_map, Function.comp_def, he]
  have hflat : ∀ entries : List (String × List Finding),
      (entries.flatMap fun e => if e.1 = port then e.2.map fun f => (port, f) else []) =
        (entries.filter (·.1 = port)).flatMap fun e => e.2.map fun f => (port, f) := by
    intro entries
    induction entries with
    | nil => rfl
    | cons e rest ih =>
      by_cases he : e.1 = port <;> simp [List.flatMap_cons, he, ih]
  rw [located, List.filter_flatMap]
  simp only [hport, hflat, KeyMap.filter_entries]
  cases h.findings.get? port <;> simp

theorem mem_located_iff {h : Host} {port : String} {f : Finding} :
    (port, f) ∈ h.located ↔ f ∈ (h.findings.get? port).getD [] := by
  have hmem : (port, f) ∈ h.located ↔ (port, f) ∈ h.located.filter (·.1 = port) := by
    simp [List.mem_filter]
  rw [hmem, filter_located]
  simp

end Host

namespace Query

/-- The selected findings of a host, on their way into the result. -/
def arrivalsOf (q : Query) (h : Host) : List Arrival :=
  (h.located.filter fun x => q.holds ⟨h.ip, x.1, x.2⟩).map fun x => ⟨h.ip, h.fqdn, x.1, x.2⟩

/-- The selected findings of a collection, on their way into the result. -/
def arrivals (q : Query) (c : Collection) : List Arrival :=
  c.hosts.values.flatMap q.arrivalsOf

theorem mem_arrivalsOf_iff {q : Query} {h : Host} {a : Arrival} :
    a ∈ q.arrivalsOf h ↔
      a.ip = h.ip ∧ a.fqdn = h.fqdn ∧ a.finding ∈ q.selectedOn h a.port := by
  simp only [arrivalsOf, List.mem_map, List.mem_filter, Prod.exists, Host.mem_located_iff,
    selectedOn]
  constructor
  · rintro ⟨port, f, hf, rfl⟩
    exact ⟨rfl, rfl, hf⟩
  · rintro ⟨hip, hfqdn, hf⟩
    exact ⟨a.port, a.finding, hf, by rw [← hip, ← hfqdn]⟩

theorem mem_keys_of_mem_selectedOn {q : Query} {h : Host} {port : String} {f : Finding}
    (hf : f ∈ q.selectedOn h port) : port ∈ h.findings.keys := by
  rw [KeyMap.mem_keys_iff]
  cases hget : h.findings.get? port with
  | none => simp [selectedOn, hget] at hf
  | some _ => rfl

theorem touches_iff {q : Query} {h : Host} :
    q.touches h ↔ ∃ port f, f ∈ q.selectedOn h port := by
  simp only [touches, List.any_eq_true, decide_eq_true_eq]
  constructor
  · rintro ⟨port, -, hne⟩
    exact ⟨port, List.exists_mem_of_ne_nil _ hne⟩
  · rintro ⟨port, f, hf⟩
    exact ⟨port, mem_keys_of_mem_selectedOn hf, List.ne_nil_of_mem hf⟩

/-- The selected findings of a host arrive under its own address only. -/
theorem listed_arrivalsOf (q : Query) (h : Host) (ip port : String) :
    Arrival.listed (q.arrivalsOf h) ip port = if h.ip = ip then q.selectedOn h port else [] := by
  by_cases hip : h.ip = ip
  · have hcomm : (h.located.filter fun x => q.holds ⟨h.ip, x.1, x.2⟩).filter (·.1 = port) =
        (h.located.filter (·.1 = port)).filter fun x => q.holds ⟨h.ip, x.1, x.2⟩ :=
      List.filter_comm ..
    rw [if_pos hip, Arrival.listed, arrivalsOf, List.filter_map, List.map_map]
    simp only [Function.comp_def, hip, true_and]
    rw [← hip, hcomm, Host.filter_located, List.filter_map, List.map_map]
    exact List.map_id _
  · have hnone : (q.arrivalsOf h).filter (fun a => a.ip = ip ∧ a.port = port) = [] := by
      refine List.filter_eq_nil_iff.2 fun a ha => ?_
      have hne : a.ip ≠ ip := (mem_arrivalsOf_iff.1 ha).1 ▸ hip
      simp [hne]
    rw [if_neg hip, Arrival.listed, hnone, List.map_nil]

/-- A host has arrivals exactly when the query touches it. -/
theorem arrivalsOf_eq_nil_iff {q : Query} {h : Host} :
    q.arrivalsOf h = [] ↔ q.touches h = false := by
  rw [← Bool.not_eq_true, touches_iff, List.eq_nil_iff_forall_not_mem]
  constructor
  · rintro hnone ⟨port, f, hf⟩
    exact hnone ⟨h.ip, h.fqdn, port, f⟩ (mem_arrivalsOf_iff.2 ⟨rfl, rfl, hf⟩)
  · intro hnone a ha
    exact hnone ⟨a.port, a.finding, (mem_arrivalsOf_iff.1 ha).2.2⟩

theorem length_arrivalsOf (q : Query) (h : Host) :
    (q.arrivalsOf h).length =
      (h.findings.keys.map fun port => (q.selectedOn h port).length).sum := by
  have hentry : ∀ e ∈ h.findings.entries,
      ((e.2.map fun f => (e.1, f)).filter fun x => q.holds ⟨h.ip, x.1, x.2⟩).length =
        (q.selectedOn h e.1).length := by
    intro e he
    rw [selectedOn, KeyMap.mem_entries_iff.1 he, Option.getD_some, List.filter_map,
      List.length_map]
    rfl
  rw [arrivalsOf, List.length_map, Host.located, List.filter_flatMap, List.length_flatMap,
    KeyMap.keys, List.map_map, List.map_congr_left hentry]
  rfl

/-! ### The arrivals of all hosts -/

theorem listed_arrivals (q : Query) (c : Collection) (ip port : String) :
    Arrival.listed (q.arrivals c) ip port = q.selectedAt c ip port := by
  rw [arrivals, selectedAt, Collection.hostsAt]
  induction c.hosts.values with
  | nil => rfl
  | cons h rest ih =>
    have happ : Arrival.listed ((h :: rest).flatMap q.arrivalsOf) ip port =
        Arrival.listed (q.arrivalsOf h) ip port ++
          Arrival.listed (rest.flatMap q.arrivalsOf) ip port := by
      simp [Arrival.listed, List.filter_append]
    rw [happ, ih, listed_arrivalsOf]
    by_cases hip : h.ip = ip <;> simp [hip]

/-- The first arrival for an address comes from the first host of it that the query touches. -/
theorem find?_arrivals (q : Query) (c : Collection) (ip : String) :
    ((q.arrivals c).find? (·.ip = ip)).map (fun a => (ip, a.fqdn)) =
      ((c.hostsAt ip).find? q.touches).map fun h => (ip, h.fqdn) := by
  rw [arrivals, Collection.hostsAt]
  induction c.hosts.values with
  | nil => rfl
  | cons h rest ih =>
    rw [List.flatMap_cons, List.find?_append, Option.map_or, ih]
    by_cases hip : h.ip = ip
    -- of this address, a host is the first one if and only if something on it arrives
    · rw [List.filter_cons_of_pos (by simpa using hip), List.find?_cons]
      cases harr : q.arrivalsOf h with
      | nil => simp [arrivalsOf_eq_nil_iff.1 harr]
      | cons a as =>
        have ha := mem_arrivalsOf_iff.1 (harr ▸ List.mem_cons_self : a ∈ q.arrivalsOf h)
        have htouch : q.touches h = true := by
          rw [← Bool.not_eq_false, ← arrivalsOf_eq_nil_iff, harr]
          exact List.cons_ne_nil a as
        simp [htouch, ha.1, ha.2.1, hip]
    · have hnone : (q.arrivalsOf h).find? (·.ip = ip) = none := by
        refine List.find?_eq_none.2 fun a ha => ?_
        simpa [(mem_arrivalsOf_iff.1 ha).1] using hip
      rw [List.filter_cons_of_neg (by simpa using hip), hnone, Option.map_none, Option.none_or]

theorem toFinset_ips_arrivals (q : Query) (c : Collection) :
    ((q.arrivals c).map (·.ip)).toFinset =
      ((c.hosts.values.filter q.touches).map (·.ip)).toFinset := by
  ext ip
  simp only [arrivals, List.mem_toFinset, List.mem_map, List.mem_flatMap, List.mem_filter,
    mem_arrivalsOf_iff, touches_iff]
  constructor
  · rintro ⟨a, ⟨h, hh, hip, -, hf⟩, rfl⟩
    exact ⟨h, ⟨hh, a.port, a.finding, hf⟩, hip.symm⟩
  · rintro ⟨h, ⟨hh, port, f, hf⟩, rfl⟩
    exact ⟨⟨h.ip, h.fqdn, port, f⟩, ⟨h, hh, rfl, rfl, hf⟩, rfl⟩

theorem toFinset_pairs_arrivals (q : Query) (c : Collection) :
    ((q.arrivals c).map fun a => (a.ip, a.port)).toFinset =
      (c.hosts.values.flatMap fun h =>
        (h.findings.keys.filter fun port => q.selectedOn h port ≠ []).map fun port =>
          (h.ip, port)).toFinset := by
  ext ⟨ip, port⟩
  simp only [arrivals, List.mem_toFinset, List.mem_map, List.mem_flatMap, List.mem_filter,
    mem_arrivalsOf_iff, decide_eq_true_eq, Prod.mk.injEq]
  constructor
  · rintro ⟨a, ⟨h, hh, hip, -, hf⟩, rfl, rfl⟩
    exact ⟨h, hh, a.port, ⟨mem_keys_of_mem_selectedOn hf, List.ne_nil_of_mem hf⟩, hip.symm, rfl⟩
  · rintro ⟨h, hh, port', ⟨-, hne⟩, rfl, rfl⟩
    obtain ⟨f, hf⟩ := List.exists_mem_of_ne_nil _ hne
    exact ⟨⟨h.ip, h.fqdn, port', f⟩, ⟨h, hh, rfl, rfl, hf⟩, rfl, rfl⟩

theorem length_arrivals (q : Query) (c : Collection) :
    (q.arrivals c).length =
      (c.hosts.values.map fun h =>
        (h.findings.keys.map fun port => (q.selectedOn h port).length).sum).sum := by
  rw [arrivals, List.length_flatMap, List.map_congr_left fun h _ => length_arrivalsOf q h]

/-! ### The evaluator -/

theorem collection_foldl_add (found : List (Host × String × Finding)) (m : Matches) :
    (found.foldl Matches.add m).collection =
      (found.map fun x => ⟨x.1.ip, x.1.fqdn, x.2.1, x.2.2⟩).foldl Collection.receive
        m.collection := by
  induction found generalizing m with
  | nil => rfl
  | cons x rest ih => exact ih (m.add x)

theorem header_foldl_add (found : List (Host × String × Finding)) (m : Matches) :
    (found.foldl Matches.add m).header = m.header := by
  induction found generalizing m with
  | nil => rfl
  | cons x rest ih => exact ih (m.add x)

/-- The scan of a collection, filtered, is what arrives in the result. -/
theorem map_filter_located (q : Query) (c : Collection) :
    (c.located.filter q.selects).map (fun x => ⟨x.1.ip, x.1.fqdn, x.2.1, x.2.2⟩) =
      q.arrivals c := by
  rw [arrivals, Collection.located, List.filter_flatMap, List.map_flatMap]
  refine congrArg (fun f => c.hosts.values.flatMap f) (funext fun h => ?_)
  rw [arrivalsOf, List.filter_map, List.map_map]
  rfl

theorem collection_evaluate (q : Query) (time : String) (c : Collection) :
    (q.evaluate time c).collection =
      ((q.arrivals c).foldl Collection.receive .empty).updateCounts := by
  rw [← map_filter_located, evaluate, Matches.updateCounts, collection_foldl_add]
  rfl

theorem plugins_foldl_receive (arrivals : List Arrival) (c : Collection) :
    (arrivals.foldl Collection.receive c).plugins = c.plugins := by
  induction arrivals generalizing c with
  | nil => rfl
  | cons a rest ih => exact ih (c.receive a)

theorem selection_evaluate (q : Query) (time : String) (c : Collection) :
    q.Selection c (q.evaluate time c).collection := by
  rw [collection_evaluate]
  have hfilled := Collection.filled_foldl (q.arrivals c)
  have hplugins := plugins_foldl_receive (q.arrivals c) .empty
  generalize (q.arrivals c).foldl Collection.receive .empty = r at hfilled hplugins
  have hhost : ∀ ip, (r.host? ip).map (fun h => (h.ip, h.fqdn)) =
      ((c.hostsAt ip).find? q.touches).map fun h => (ip, h.fqdn) := fun ip => by
    rw [hfilled.host_eq, find?_arrivals]
  constructor
  case entry_eq =>
    intro ip port
    rw [← listed_arrivals]
    exact hfilled.entry_eq ip port
  case host_iff =>
    intro ip
    have hsome := congrArg Option.isSome (hhost ip)
    rw [Option.isSome_map, Option.isSome_map] at hsome
    show (r.host? ip).isSome ↔ _
    rw [hsome, List.find?_isSome]
  case ip_eq =>
    intro ip h hh
    have heq := hhost ip
    rw [show r.host? ip = some h from hh] at heq
    obtain ⟨_, -, hpair⟩ := Option.map_eq_some_iff.1 heq.symm
    exact (congrArg Prod.fst hpair).symm
  case fqdn_eq =>
    intro ip h hh
    have heq := congrArg (Option.map Prod.snd) (hhost ip)
    rw [show r.host? ip = some h from hh, Option.map_map, Option.map_map] at heq
    exact heq.symm
  case hosts_eq =>
    rw [← toFinset_ips_arrivals]
    exact congrArg Counts.hosts hfilled.counts_eq
  case ports_eq =>
    rw [← toFinset_pairs_arrivals]
    exact congrArg Counts.ports hfilled.counts_eq
  case findings_eq =>
    rw [← length_arrivals]
    exact congrArg Counts.findings hfilled.counts_eq
  case plugins_eq => exact hplugins

end Query

/-- The result of the query written in a text holds what that query selects, and its text. -/
theorem runQuery_selects_exactly (time text : String) (c : Collection) :
    (Query.parse text).Selection c (runQuery time text c).collection ∧
      (runQuery time text c).header.query = text :=
  ⟨Query.selection_evaluate _ time c,
    congrArg Header.query (Query.header_foldl_add _ (.new time text))⟩

end ScanQuery
