import ScanQuery.Proofs.Selection

/-!
Querying an answer. An answer holds a collection, so it can be queried in its turn, and to do so is
to drill down: what is left are the findings that both queries select, in whatever order the
queries were run, and a query that is run on its own answer leaves it as it is.

`Narrowed` says what a collection is when it holds those findings of another one that a test
keeps. It leaves no freedom: names, ports, the order of findings and the counts are all fixed, so
two collections narrowed alike are the same. Narrowing twice is narrowing by both tests, and
evaluating a query narrows a collection whose hosts stand under their own addresses, which those of
an answer always do.
-/

namespace ScanQuery

namespace Collection

/-- Whether every host stands under its own address. -/
def OwnKeys (c : Collection) : Prop :=
  ∀ e ∈ c.hosts.entries, e.2.ip = e.1

instance (c : Collection) : Decidable c.OwnKeys :=
  inferInstanceAs (Decidable (∀ e ∈ c.hosts.entries, e.2.ip = e.1))

/-- The findings on a port of the host under a key. -/
def findingsAt (c : Collection) (ip port : String) : List Finding :=
  ((c.host? ip).bind (·.findings.get? port)).getD []

/-- What it means that a collection holds those findings of another one that a test keeps, in their
order and with the names of their hosts, without empty ports and hosts, and counted. -/
structure Narrowed (keep : Sighting → Bool) (c result : Collection) : Prop where
  entry_eq : ∀ ip port, (result.host? ip).bind (·.findings.get? port) =
    entryOf? ((c.findingsAt ip port).filter fun f => keep ⟨ip, port, f⟩)
  host_iff : ∀ ip, (result.host? ip).isSome ↔
    ∃ port, ∃ f ∈ c.findingsAt ip port, keep ⟨ip, port, f⟩
  name_eq : ∀ ip h, result.host? ip = some h →
    h.ip = ip ∧ (c.host? ip).map (·.fqdn) = some h.fqdn
  counts_eq : result.counts = result.actualCounts
  plugins_eq : result.plugins = []

variable {c r r' : Collection} {keep keep' : Sighting → Bool}

/-! ### Hosts under their own addresses -/

theorem ownKeys_iff : c.OwnKeys ↔ ∀ ip h, c.host? ip = some h → h.ip = ip := by
  constructor
  · intro hc ip h hh
    exact hc (ip, h) (KeyMap.mem_entries_iff.2 hh)
  · intro hc e he
    exact hc e.1 e.2 (KeyMap.mem_entries_iff.1 he)

theorem OwnKeys.hostsAt_eq (hc : c.OwnKeys) (ip : String) :
    c.hostsAt ip = (c.host? ip).toList := by
  have hkeys : c.hosts.entries.filter (fun e => e.2.ip = ip) =
      c.hosts.entries.filter (fun e => e.1 = ip) :=
    List.filter_congr fun e he => by rw [hc e he]
  rw [hostsAt, KeyMap.values, List.filter_map]
  show (c.hosts.entries.filter fun e => e.2.ip = ip).map (·.2) = _
  rw [hkeys, KeyMap.filter_entries, host?]
  cases c.hosts.get? ip <;> rfl

theorem OwnKeys.selectedAt_eq (hc : c.OwnKeys) (q : Query) (ip port : String) :
    q.selectedAt c ip port = (c.findingsAt ip port).filter fun f => q.holds ⟨ip, port, f⟩ := by
  rw [Query.selectedAt, hc.hostsAt_eq, findingsAt]
  cases hhost : c.host? ip with
  | none => rfl
  | some h =>
    rw [Option.toList_some, List.flatMap_singleton, Query.selectedOn, ownKeys_iff.1 hc ip h hhost]
    rfl

/-! ### Narrowing -/

/-- A host of an address is touched by a query that selects something under the address. -/
theorem exists_touches_iff {q : Query} {ip : String} :
    (∃ h ∈ c.hostsAt ip, q.touches h) ↔ ∃ port, ∃ f, f ∈ q.selectedAt c ip port := by
  simp only [Query.touches_iff, Query.selectedAt, List.mem_flatMap]
  constructor
  · rintro ⟨h, hh, port, f, hf⟩
    exact ⟨port, f, h, hh, hf⟩
  · rintro ⟨port, f, h, hh, hf⟩
    exact ⟨h, hh, port, f, hf⟩

/-- Evaluating a query narrows a collection to what the query selects. -/
theorem OwnKeys.narrowed_evaluate (hc : c.OwnKeys) (q : Query) (time : String) :
    Narrowed q.holds c (q.evaluate time c).collection := by
  have hselection := q.selection_evaluate time c
  constructor
  case entry_eq =>
    intro ip port
    rw [hselection.entry_eq, hc.selectedAt_eq]
    rfl
  case host_iff =>
    intro ip
    simp only [hselection.host_iff, exists_touches_iff, hc.selectedAt_eq, List.mem_filter]
  case name_eq =>
    intro ip h hh
    refine ⟨hselection.ip_eq ip h hh, ?_⟩
    have hname := hselection.fqdn_eq ip h hh
    obtain ⟨found, hfound, hfqdn⟩ := Option.map_eq_some_iff.1 hname
    have hmem : found ∈ c.hostsAt ip := List.mem_of_find?_eq_some hfound
    rw [hc.hostsAt_eq, Option.mem_toList] at hmem
    exact Option.map_eq_some_iff.2 ⟨found, hmem, hfqdn⟩
  case counts_eq => rfl
  case plugins_eq => exact hselection.plugins_eq

theorem Narrowed.ownKeys (h : Narrowed keep c r) : r.OwnKeys :=
  ownKeys_iff.2 fun ip host hhost => (h.name_eq ip host hhost).1

theorem Narrowed.findingsAt_eq (h : Narrowed keep c r) (ip port : String) :
    r.findingsAt ip port = (c.findingsAt ip port).filter fun f => keep ⟨ip, port, f⟩ := by
  rw [findingsAt, h.entry_eq, getD_entryOf?]

/-- Narrowing twice is narrowing by both tests. -/
theorem Narrowed.trans (h : Narrowed keep c r) (h' : Narrowed keep' r r') :
    Narrowed (fun s => keep s && keep' s) c r' where
  entry_eq ip port := by
    rw [h'.entry_eq, h.findingsAt_eq, List.filter_filter]
    refine congrArg entryOf? (List.filter_congr fun f _ => ?_)
    exact Bool.and_comm ..
  host_iff ip := by
    rw [h'.host_iff]
    simp only [h.findingsAt_eq, List.mem_filter, Bool.and_eq_true, and_assoc]
  name_eq ip host hhost := by
    obtain ⟨hip, hname⟩ := h'.name_eq ip host hhost
    obtain ⟨middle, hmiddle, hfqdn⟩ := Option.map_eq_some_iff.1 hname
    exact ⟨hip, hfqdn ▸ (h.name_eq ip middle hmiddle).2⟩
  counts_eq := h'.counts_eq
  plugins_eq := h'.plugins_eq

/-- Collections narrowed alike are the same. -/
theorem Narrowed.unique (h : Narrowed keep c r) (h' : Narrowed keep c r') : r = r' := by
  -- a key decides whether there is a host, and then its address and its name
  have hname : ∀ ip, (r.host? ip).map (fun h => (h.ip, h.fqdn)) =
      (r'.host? ip).map fun h => (h.ip, h.fqdn) := by
    intro ip
    have hsome : (r.host? ip).isSome = (r'.host? ip).isSome := by
      rw [Bool.eq_iff_iff, h.host_iff, h'.host_iff]
    cases hr : r.host? ip with
    | none =>
      rw [hr] at hsome
      rw [Option.isNone_iff_eq_none.1 (Option.isSome_eq_false_iff.1 hsome.symm)]
    | some host =>
      rw [hr] at hsome
      obtain ⟨host', hr'⟩ := Option.isSome_iff_exists.1 hsome.symm
      obtain ⟨hip, hfqdn⟩ := h.name_eq ip host hr
      obtain ⟨hip', hfqdn'⟩ := h'.name_eq ip host' hr'
      have hnames : host.fqdn = host'.fqdn := Option.some.inj (hfqdn.symm.trans hfqdn')
      rw [hr', Option.map_some, Option.map_some, hip, hip', hnames]
  have hhosts : r.hosts = r'.hosts :=
    hosts_ext hname fun ip port => (h.entry_eq ip port).trans (h'.entry_eq ip port).symm
  have hcounts : r.counts = r'.counts := by
    rw [h.counts_eq, h'.counts_eq, actualCounts, actualCounts, hhosts]
  exact Collection.ext hhosts (h.plugins_eq.trans h'.plugins_eq.symm) hcounts

end Collection

/-- Whichever of two queries is run on the answer to the other, what is left is what both select;
and a query run on its own answer leaves it as it is. -/
theorem drill_down {c : Collection} (hown : c.OwnKeys) (time₁ time₂ text₁ text₂ : String) :
    Collection.Narrowed
        (fun s => (Query.parse text₁).holds s && (Query.parse text₂).holds s) c
        (runQuery time₂ text₂ (runQuery time₁ text₁ c).collection).collection ∧
      (runQuery time₂ text₂ (runQuery time₁ text₁ c).collection).collection =
        (runQuery time₁ text₁ (runQuery time₂ text₂ c).collection).collection ∧
      (runQuery time₂ text₁ (runQuery time₁ text₁ c).collection).collection =
        (runQuery time₁ text₁ c).collection := by
  have hnarrow : ∀ {c : Collection}, c.OwnKeys → ∀ time text,
      Collection.Narrowed (Query.parse text).holds c (runQuery time text c).collection :=
    fun hc time text => hc.narrowed_evaluate (Query.parse text) time
  have htwice : ∀ time time' text text', Collection.Narrowed
      (fun s => (Query.parse text).holds s && (Query.parse text').holds s) c
      (runQuery time' text' (runQuery time text c).collection).collection := by
    intro time time' text text'
    -- an answer has its hosts under their own addresses, so it is narrowed in its turn
    have hfirst := hnarrow hown time text
    exact hfirst.trans (hnarrow hfirst.ownKeys time' text')
  refine ⟨htwice time₁ time₂ text₁ text₂, ?_, ?_⟩
  · have hswapped := htwice time₂ time₁ text₂ text₁
    simp only [Bool.and_comm] at hswapped
    exact (htwice time₁ time₂ text₁ text₂).unique hswapped
  · have hagain := htwice time₁ time₂ text₁ text₁
    simp only [Bool.and_self] at hagain
    exact hagain.unique (hnarrow hown time₁ text₁)

/-- A scan of two hosts, one of them named, with three findings on the same port. -/
def mailScan : Collection :=
  ([("10.0.0.9", "1", "2"), ("10.0.0.9", "2", "0"), ("10.0.0.10", "1", "2")] :
      List (String × String × String)).foldl
    (fun c x => c.addFinding x.1 (some "mail.local") "25/tcp" ⟨x.2.1, "SMTP", x.2.2, "", none⟩)
    .empty

/-- Each query leaves two findings, and both together one. -/
theorem drill_down_mailScan :
    mailScan.OwnKeys ∧
      (runQuery "" "ip=10.0.0.9" mailScan).collection.counts = ⟨1, 1, 2⟩ ∧
      (runQuery "" "sev=med" mailScan).collection.counts = ⟨2, 2, 2⟩ ∧
      (runQuery "" "sev=med" (runQuery "" "ip=10.0.0.9" mailScan).collection).collection.counts =
        ⟨1, 1, 1⟩ ∧
      (runQuery "" "sev=med" (runQuery "" "ip=10.0.0.9" mailScan).collection).collection =
        (runQuery "" "ip=10.0.0.9" (runQuery "" "sev=med" mailScan).collection).collection := by
  have hown : mailScan.OwnKeys := by decide +kernel
  refine ⟨hown, by decide +kernel, by decide +kernel, by decide +kernel, ?_⟩
  exact (drill_down hown "" "" "ip=10.0.0.9" "sev=med").2.1

end ScanQuery
