import ScanQuery.Ingest.Path
import ScanQuery.Proofs.Filling
import ScanQuery.Proofs.FirstSeen

/-!
Ingestion loses and invents nothing. Texts are parsed into one collection, one after another, and
those that are no documents leave no trace. The collection holds a host for every name of a host
element and for nothing else; under a host and a port it holds the items that were reported there,
in the order of the documents; every plugin stands in the list once, as the first item with its id
presented it; and the numbers of all documents add up to what is held.

Items reach a host one by one and hosts are entered behind their items, so between two host
elements of a document a collection is described by two lists: the names entered and the items
with the names they came under. `Gathered` says what they determine. One item or one entered host
extends the lists at their ends, and runs over items, host elements, documents and texts follow by
induction.
-/

namespace ScanQuery

namespace Collection

theorem host?_setHost (c : Collection) (ip ip' : String) (h : Host) :
    (c.setHost ip h).host? ip' = if ip' = ip then some h else c.host? ip' :=
  KeyMap.get?_insert ..

/-- Putting a host with as many findings in place of one keeps the number of findings. -/
theorem findings_setHost {c : Collection} {ip : String} {h : Host}
    (hfindings : h.findings = (c.hostOrNew ip).findings) :
    (c.setHost ip h).actualCounts.findings = c.actualCounts.findings := by
  have htotal := c.hosts.total_alter ip (fun _ => h) Host.findingCount
  have hcount : h.findingCount = (c.hostOrNew ip).findingCount := by
    rw [Host.findingCount, hfindings, Host.findingCount]
  have hpresent : (c.hostOrNew ip).findingCount =
      ((c.hosts.get? ip).map Host.findingCount).getD 0 := by
    rw [hostOrNew, host?]
    cases c.hosts.get? ip <;> rfl
  show (c.hosts.alter ip fun _ => h).total Host.findingCount = c.hosts.total Host.findingCount
  omega

end Collection

namespace Ingest

/-! ### Parsing texts in turn -/

/-- The progress after one more text; a text that is no document adds nothing. -/
def Progress.parse (settings : IngestSettings) (p : Progress) (text : String) : Progress :=
  match (addText settings p.collection text).value with
  | .ok (c, stats) => ⟨c, p.stats.add stats, p.files + 1⟩
  | .error _ => p

/-- The host elements of those texts that are documents, in order. -/
def hostElements (texts : List String) : List HostElement :=
  texts.flatMap fun text =>
    match parseDocument text with
    | .ok d => d
    | .error _ => []

/-- The findings that are reported on a port by the host elements of one name, in order. -/
def reportedOn (elements : List HostElement) (name port : String) : List Finding :=
  (((elements.filter (·.name = name)).flatMap (·.items)).filter fun i =>
    Port.key i.port i.protocol = port).map fun i =>
      ⟨i.pluginId, i.pluginName, i.severity, i.description.getD "", i.output⟩

/-- What it means that ingestion has taken in some host elements and nothing else. -/
structure Ingested (elements : List HostElement) (p : Progress) : Prop where
  keys_iff : ∀ ip, ip ∈ p.collection.hosts.keys ↔ ∃ e ∈ elements, e.name = ip
  ip_eq : ∀ ip h, p.collection.host? ip = some h → h.ip = ip
  entry_eq : ∀ ip port, (p.collection.host? ip).bind (·.findings.get? port) =
    if reportedOn elements ip port = [] then none else some (reportedOn elements ip port)
  plugins_eq : p.collection.plugins =
    (firstBy (·.pluginId) (elements.flatMap (·.items))).map fun i =>
      ⟨i.pluginId, i.pluginName, Severity.ofReport i.severity⟩
  ids_nodup : (p.collection.plugins.map (·.id)).Nodup
  ids_iff : ∀ id, id ∈ p.collection.plugins.map (·.id) ↔
    ∃ e ∈ elements, ∃ i ∈ e.items, i.pluginId = id
  findings_eq : p.collection.actualCounts.findings = (elements.flatMap (·.items)).length
  stats_eq : p.stats =
    ⟨elements.length, p.collection.actualCounts.findings, p.collection.plugins.length⟩

/-! ### Items and hosts -/

/-- The items of a host element with the name they came under. -/
def HostElement.located (e : HostElement) : List (String × ItemElement) :=
  e.items.map fun i => (e.name, i)

/-- A located item on its way into a collection. -/
def arrivalOf (x : String × ItemElement) : Arrival :=
  ⟨x.1, none, x.2.portKey, x.2.finding⟩

/-- What the names entered and the items added so far determine of a collection. -/
structure Gathered (names : List String) (items : List (String × ItemElement))
    (c : Collection) : Prop where
  host_iff : ∀ ip, (c.host? ip).isSome ↔ ip ∈ names ∨ ip ∈ items.map (·.1)
  ip_eq : ∀ ip h, c.host? ip = some h → h.ip = ip
  entry_eq : ∀ ip port, (c.host? ip).bind (·.findings.get? port) =
    entryOf? (Arrival.listed (items.map arrivalOf) ip port)
  plugins_eq : c.plugins = (firstBy (·.2.pluginId) items).map fun x => x.2.finding.plugin
  findings_eq : c.actualCounts.findings = items.length

theorem gathered_empty : Gathered [] [] .empty where
  host_iff ip := by simp [Collection.host?, Collection.empty]
  ip_eq ip h hh := nomatch hh
  entry_eq _ _ := rfl
  plugins_eq := rfl
  findings_eq := rfl

variable {names : List String} {items : List (String × ItemElement)} {c : Collection}

theorem host?_addItem (ip ip' : String) (c : Collection) (i : ItemElement) :
    (addItem ip c i).host? ip' =
      if ip' = ip then some (((c.host? ip).getD (.new ip none)).addFinding i.portKey i.finding)
      else c.host? ip' := by
  rw [addItem, Collection.host?_addFinding, Collection.host?, Collection.host?,
    Collection.hosts_registerPlugin]
  rfl

/-- The ids of the plugins are those of the items. -/
theorem Gathered.mem_ids_iff (hc : Gathered names items c) (id : String) :
    id ∈ c.plugins.map (·.id) ↔ id ∈ items.map (·.2.pluginId) := by
  rw [hc.plugins_eq, List.map_map]
  exact mem_map_firstBy fun x : String × ItemElement => x.2.pluginId

/-- The step for an item. -/
theorem Gathered.addItem (hc : Gathered names items c) (ip : String) (i : ItemElement) :
    Gathered names (items ++ [(ip, i)]) (addItem ip c i) where
  host_iff ip' := by
    rw [host?_addItem, List.map_append, List.mem_append]
    by_cases hip : ip' = ip
    · simp [hip]
    · rw [if_neg hip, hc.host_iff]
      simp [hip]
  ip_eq ip' h hh := by
    rw [host?_addItem] at hh
    split at hh
    · next hip =>
      obtain rfl := Option.some.inj hh
      rw [Host.ip_addFinding, hip]
      cases hhost : c.host? ip with
      | none => rfl
      | some present => exact hc.ip_eq ip present hhost
    · exact hc.ip_eq ip' h hh
  entry_eq := by
    rw [List.map_append]
    refine Collection.entry_receive (c := c.registerPlugin ..) ?_ (arrivalOf (ip, i))
    simpa only [Collection.host?, Collection.hosts_registerPlugin] using hc.entry_eq
  plugins_eq := by
    -- an item registers its plugin first, and its finding leaves the plugins as they are
    have hplugins : (Ingest.addItem ip c i).plugins =
        if i.pluginId ∈ c.plugins.map (·.id) then c.plugins
        else c.plugins ++ [i.finding.plugin] := Collection.plugins_registerPlugin ..
    rw [hplugins, firstBy_concat]
    by_cases hid : i.pluginId ∈ c.plugins.map (·.id)
    · rw [if_pos hid, if_pos ((hc.mem_ids_iff _).1 hid), hc.plugins_eq]
    · rw [if_neg hid, if_neg fun h => hid ((hc.mem_ids_iff _).2 h), List.map_append,
        hc.plugins_eq, List.map_singleton]
  findings_eq := by
    have hcount := congrArg Counts.findings
      ((c.registerPlugin i.pluginId i.pluginName i.severity).actualCounts_addFinding
        ip none i.portKey i.finding)
    have hregister : (c.registerPlugin i.pluginId i.pluginName i.severity).actualCounts =
        c.actualCounts := by
      rw [Collection.actualCounts, Collection.hosts_registerPlugin, Collection.actualCounts]
    rw [Ingest.addItem, hcount, hregister, hc.findings_eq, List.length_append]
    rfl

/-- The step for a host that is entered with the findings it has. -/
theorem Gathered.setHost (hc : Gathered names items c) {ip : String} {h : Host} (hip : h.ip = ip)
    (hfindings : h.findings = (c.hostOrNew ip).findings) {names' : List String}
    (hnames : ∀ x, x ∈ names' ↔ x ∈ names ∨ x = ip) :
    Gathered names' items (c.setHost ip h) where
  host_iff ip' := by
    rw [Collection.host?_setHost, hnames]
    by_cases heq : ip' = ip
    · simp [heq]
    · rw [if_neg heq, hc.host_iff]
      simp [heq]
  ip_eq ip' h' hh' := by
    rw [Collection.host?_setHost] at hh'
    split at hh'
    · next heq =>
      obtain rfl := Option.some.inj hh'
      rw [hip, heq]
    · exact hc.ip_eq ip' h' hh'
  entry_eq ip' port := by
    rw [Collection.host?_setHost, ← hc.entry_eq]
    split
    · next heq =>
      subst heq
      rw [Option.bind_some, hfindings]
      exact Collection.get?_findings_getD_new (c.host? ip') ip' none port
    · rfl
  plugins_eq := hc.plugins_eq
  findings_eq := (Collection.findings_setHost hfindings).trans hc.findings_eq

/-! ### The runs -/

theorem Gathered.addItems_foldl (hc : Gathered names items c) (ip : String)
    (more : List ItemElement) :
    Gathered names (items ++ more.map fun i => (ip, i)) (more.foldl (Ingest.addItem ip) c) := by
  induction more generalizing items c with
  | nil =>
    rw [List.map_nil, List.append_nil]
    exact hc
  | cons i rest ih =>
    have hstep := ih (hc.addItem ip i)
    rwa [List.append_assoc, List.singleton_append] at hstep

theorem ip_named (h : Host) : (named h).ip = h.ip := by
  unfold named
  split <;> rfl

theorem findings_named (h : Host) : (named h).findings = h.findings := by
  unfold named
  split <;> rfl

theorem Gathered.ip_hostOrNew (hc : Gathered names items c) (ip : String) :
    (c.hostOrNew ip).ip = ip := by
  rw [Collection.hostOrNew]
  cases hhost : c.host? ip with
  | none => rfl
  | some h => exact hc.ip_eq ip h hhost

theorem Gathered.addHost (hc : Gathered names items c) (resolveNames : Bool) (e : HostElement) :
    Gathered (names ++ [e.name]) (items ++ e.located) (addHost resolveNames c e) := by
  have hitems := hc.addItems_foldl e.name e.items
  have hentered : Gathered (names ++ [e.name]) (items ++ e.located) (addItems c e) :=
    hitems.setHost (hitems.ip_hostOrNew e.name) rfl (by simp)
  unfold Ingest.addHost
  split
  · -- the host is entered a second time, with its name
    refine hentered.setHost ?_ (findings_named _) (by simp)
    rw [ip_named, hentered.ip_hostOrNew]
  · exact hentered

theorem Gathered.addDocument (hc : Gathered names items c) (resolveNames : Bool) (d : Document) :
    Gathered (names ++ d.map (·.name)) (items ++ d.flatMap HostElement.located)
      (addDocument resolveNames c d) := by
  induction d generalizing names items c with
  | nil =>
    rw [List.map_nil, List.append_nil, List.flatMap_nil, List.append_nil]
    exact hc
  | cons e rest ih =>
    have hstep := ih (hc.addHost resolveNames e)
    rw [List.append_assoc, List.append_assoc, List.singleton_append] at hstep
    rw [List.map_cons, List.flatMap_cons]
    exact hstep

/-! ### The numbers -/

theorem length_plugins_addItem (ip : String) (c : Collection) (i : ItemElement) :
    (addItem ip c i).plugins.length =
      c.plugins.length + if c.isNewPlugin i.pluginId then 1 else 0 := by
  show (c.registerPlugin ..).plugins.length = _
  unfold Collection.registerPlugin
  split
  · rw [List.length_append, List.length_singleton]
  · rw [Nat.add_zero]

theorem length_plugins_addItems (ip : String) (c : Collection) (items : List ItemElement) :
    (items.foldl (addItem ip) c).plugins.length =
      c.plugins.length + (itemStats ip c items).newPlugins := by
  induction items generalizing c with
  | nil => rfl
  | cons i rest ih =>
    rw [List.foldl_cons, ih, length_plugins_addItem, itemStats, Stats.add, Nat.add_assoc]

theorem itemStats_eq (ip : String) (c : Collection) (items : List ItemElement) :
    itemStats ip c items = ⟨0, items.length, (itemStats ip c items).newPlugins⟩ := by
  induction items generalizing c with
  | nil => rfl
  | cons i rest ih =>
    rw [itemStats, ih, List.length_cons, Nat.add_comm]
    rfl

theorem length_plugins_addHost (resolveNames : Bool) (c : Collection) (e : HostElement) :
    (addHost resolveNames c e).plugins.length =
      c.plugins.length + (itemStats e.name c e.items).newPlugins := by
  rw [← length_plugins_addItems]
  unfold addHost
  split <;> rfl

theorem documentStats_eq (resolveNames : Bool) (c : Collection) (d : Document) :
    documentStats resolveNames c d = ⟨d.length, (d.flatMap HostElement.located).length,
      (documentStats resolveNames c d).newPlugins⟩ := by
  induction d generalizing c with
  | nil => rfl
  | cons e rest ih =>
    rw [documentStats, itemStats_eq, ih]
    simp only [Stats.add, List.length_cons, List.flatMap_cons, List.length_append,
      HostElement.located, List.length_map, Stats.mk.injEq, and_true]
    omega

theorem length_plugins_addDocument (resolveNames : Bool) (c : Collection) (d : Document) :
    (addDocument resolveNames c d).plugins.length =
      c.plugins.length + (documentStats resolveNames c d).newPlugins := by
  induction d generalizing c with
  | nil => rfl
  | cons e rest ih =>
    have hcons : addDocument resolveNames c (e :: rest) =
        addDocument resolveNames (addHost resolveNames c e) rest := rfl
    rw [hcons, ih, length_plugins_addHost]
    simp only [documentStats, Stats.add]
    omega

/-! ### Texts -/

/-- What the host elements of the texts parsed so far determine of the progress. -/
structure Tallied (elements : List HostElement) (p : Progress) : Prop where
  gathered : Gathered (elements.map (·.name)) (elements.flatMap HostElement.located) p.collection
  stats_eq : p.stats = ⟨elements.length, (elements.flatMap HostElement.located).length,
    p.collection.plugins.length⟩

theorem parse_of_error {settings : IngestSettings} {text : String} {fault : Xml.Fault}
    (hfault : parseDocument text = .error fault) (p : Progress) :
    p.parse settings text = p := by
  rw [Progress.parse, addText, hfault]

theorem parse_of_document {settings : IngestSettings} {text : String} {d : Document}
    (hd : parseDocument text = .ok d) (p : Progress) :
    p.parse settings text = ⟨addDocument settings.resolveNames p.collection d,
      p.stats.add (documentStats settings.resolveNames p.collection d), p.files + 1⟩ := by
  rw [Progress.parse, addText, hd]

/-- The step for a text that is a document. -/
theorem Tallied.document {elements : List HostElement} {p : Progress} (hp : Tallied elements p)
    (resolveNames : Bool) (d : Document) (files : Nat) :
    Tallied (elements ++ d) ⟨addDocument resolveNames p.collection d,
      p.stats.add (documentStats resolveNames p.collection d), files⟩ where
  gathered := by
    rw [List.map_append, List.flatMap_append]
    exact hp.gathered.addDocument resolveNames d
  stats_eq := by
    have hplugins := length_plugins_addDocument resolveNames p.collection d
    rw [hp.stats_eq, documentStats_eq, Stats.add, List.length_append, List.flatMap_append,
      List.length_append, hplugins]

theorem hostElements_append (texts texts' : List String) :
    hostElements (texts ++ texts') = hostElements texts ++ hostElements texts' :=
  List.flatMap_append ..

/-- The step for a text. -/
theorem Tallied.parse {elements : List HostElement} {p : Progress} (hp : Tallied elements p)
    (settings : IngestSettings) (text : String) :
    Tallied (elements ++ hostElements [text]) (p.parse settings text) := by
  rw [hostElements, List.flatMap_singleton]
  cases hparse : parseDocument text with
  | error fault =>
    rw [parse_of_error hparse, List.append_nil]
    exact hp
  | ok d =>
    rw [parse_of_document hparse]
    exact hp.document settings.resolveNames d _

/-- The run: whatever texts are parsed, each with settings of its own, the progress is that of
their host elements. -/
theorem tallied_parseEach (docs : List (IngestSettings × String)) :
    Tallied (hostElements (docs.map (·.2))) (docs.foldl (fun p d => p.parse d.1 d.2) .start) := by
  induction docs using List.reverseRecOn with
  | nil => exact ⟨gathered_empty, rfl⟩
  | append_singleton docs d ih =>
    rw [List.foldl_append, List.map_append, hostElements_append]
    exact ih.parse d.1 d.2

theorem tallied_foldl (settings : IngestSettings) (texts : List String) :
    Tallied (hostElements texts) (texts.foldl (Progress.parse settings) .start) := by
  have hrun := tallied_parseEach (texts.map fun text => (settings, text))
  rwa [List.foldl_map, List.map_map, Function.comp_def, List.map_id'] at hrun

/-! ### What is held in the end -/

/-- What arrives from one host element. -/
theorem listed_elementArrivals (e : HostElement) (name port : String) :
    Arrival.listed (e.located.map arrivalOf) name port =
      if e.name = name then (e.items.filter (·.portKey = port)).map (·.finding) else [] := by
  rw [Arrival.listed, HostElement.located, List.map_map, List.filter_map, List.map_map]
  by_cases hname : e.name = name
  · rw [if_pos hname]
    simp [Function.comp_def, arrivalOf, hname]
  · rw [if_neg hname]
    simp [Function.comp_def, arrivalOf, hname]

/-- What arrives under a name and a port is what the elements of that name report there. -/
theorem listed_arrivals (elements : List HostElement) (name port : String) :
    Arrival.listed ((elements.flatMap HostElement.located).map arrivalOf) name port =
      reportedOn elements name port := by
  induction elements with
  | nil => rfl
  | cons e rest ih =>
    rw [List.flatMap_cons, List.map_append, Arrival.listed_append, ih, listed_elementArrivals,
      reportedOn, reportedOn, List.filter_cons]
    by_cases hname : e.name = name
    · rw [if_pos hname, if_pos (by simpa using hname), List.flatMap_cons, List.filter_append,
        List.map_append]
      rfl
    · rw [if_neg hname, if_neg (by simpa using hname), List.nil_append]

theorem exists_name_eq_of_located {elements : List HostElement} {ip : String}
    (hip : ip ∈ (elements.flatMap HostElement.located).map (·.1)) :
    ∃ e ∈ elements, e.name = ip := by
  obtain ⟨x, hx, rfl⟩ := List.mem_map.1 hip
  obtain ⟨e, he, hxe⟩ := List.mem_flatMap.1 hx
  obtain ⟨i, -, rfl⟩ := List.mem_map.1 hxe
  exact ⟨e, he, rfl⟩

theorem map_snd_located (elements : List HostElement) :
    (elements.flatMap HostElement.located).map (·.2) = elements.flatMap (·.items) := by
  rw [List.map_flatMap]
  simp [HostElement.located]

theorem Tallied.ingested {elements : List HostElement} {p : Progress} (hp : Tallied elements p) :
    Ingested elements p := by
  have hg := hp.gathered
  have hlength : (elements.flatMap HostElement.located).length =
      (elements.flatMap (·.items)).length := by
    rw [← map_snd_located, List.length_map]
  have hplugins : p.collection.plugins =
      (firstBy (·.pluginId) (elements.flatMap (·.items))).map (·.finding.plugin) := by
    rw [hg.plugins_eq, ← map_snd_located, firstBy_map, List.map_map]
    rfl
  have hids : p.collection.plugins.map (·.id) =
      (firstBy (·.pluginId) (elements.flatMap (·.items))).map (·.pluginId) := by
    rw [hplugins, List.map_map]
    rfl
  constructor
  case keys_iff =>
    intro ip
    rw [KeyMap.mem_keys_iff]
    have hhost := hg.host_iff ip
    rw [Collection.host?] at hhost
    rw [hhost]
    constructor
    · rintro (hname | hitem)
      · obtain ⟨e, he, rfl⟩ := List.mem_map.1 hname
        exact ⟨e, he, rfl⟩
      · exact exists_name_eq_of_located hitem
    · rintro ⟨e, he, rfl⟩
      exact .inl (List.mem_map_of_mem he)
  case ip_eq => exact hg.ip_eq
  case entry_eq =>
    intro ip port
    rw [hg.entry_eq, listed_arrivals]
    rfl
  case plugins_eq => exact hplugins
  case ids_nodup =>
    rw [hids]
    exact nodup_map_firstBy _ _
  case ids_iff =>
    intro id
    rw [hids, mem_map_firstBy]
    simp only [List.mem_map, List.mem_flatMap]
    constructor
    · rintro ⟨i, ⟨e, he, hi⟩, rfl⟩
      exact ⟨e, he, i, hi, rfl⟩
    · rintro ⟨e, he, i, hi, rfl⟩
      exact ⟨i, ⟨e, he, hi⟩, rfl⟩
  case findings_eq => rw [hg.findings_eq, hlength]
  case stats_eq => rw [hp.stats_eq, hg.findings_eq]

/-- Whatever texts are parsed in turn, the collection and the numbers are those of the host
elements of the documents among them, and one more text that is no document changes nothing. -/
theorem parse_ingests_exactly (settings : IngestSettings) (texts : List String) :
    Ingested (hostElements texts) (texts.foldl (Progress.parse settings) .start) ∧
      ∀ text fault, parseDocument text = .error fault →
        (addText settings (texts.foldl (Progress.parse settings) .start).collection text).value =
            .error fault ∧
          (texts ++ [text]).foldl (Progress.parse settings) .start =
            texts.foldl (Progress.parse settings) .start := by
  refine ⟨(tallied_foldl settings texts).ingested, fun text fault hfault => ⟨?_, ?_⟩⟩
  · rw [addText, hfault]
  · rw [List.foldl_append, List.foldl_cons, List.foldl_nil, parse_of_error hfault]

/-- A report of one finding of one host. -/
def telnetReport : String :=
  "<r><Report><ReportHost name=\"h\"><ReportItem port=\"23\" pluginID=\"7\"/></ReportHost>" ++
    "</Report></r>"

/-- The finding is taken in, and a report that breaks off behind it changes nothing. -/
theorem parse_ingests_telnet :
    parseDocument "<Report>" = .error .unclosedElement ∧
      Ingested [⟨"h", [⟨"23", "", "", "7", "", none, none⟩]⟩]
        ([telnetReport].foldl (Progress.parse ⟨"nessus", true⟩) .start) ∧
      ([telnetReport] ++ ["<Report>"]).foldl (Progress.parse ⟨"nessus", true⟩) .start =
        [telnetReport].foldl (Progress.parse ⟨"nessus", true⟩) .start := by
  have hbroken : parseDocument "<Report>" = .error .unclosedElement := rfl
  have helements : hostElements [telnetReport] =
      [⟨"h", [⟨"23", "", "", "7", "", none, none⟩]⟩] := by decide +kernel
  obtain ⟨hheld, hfailed⟩ := parse_ingests_exactly ⟨"nessus", true⟩ [telnetReport]
  rw [helements] at hheld
  exact ⟨hbroken, hheld, (hfailed _ _ hbroken).2⟩

end Ingest

end ScanQuery
