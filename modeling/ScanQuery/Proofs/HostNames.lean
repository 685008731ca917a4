import ScanQuery.Proofs.Ingestion
import ScanQuery.Proofs.Selection

/-!
The name of a host depends only on the findings that it ends up with. Names are looked up behind
every host element, on hosts whose findings may not be complete, and a name once found is replaced
at times but never taken back. Still every host has in the end the name that its findings tell:
findings are only ever added, so a host that told a name goes on telling one, and where the findings
tell another name than before, the host has been looked at again since.

Behind each host element all hosts have the name that they tell. While the items of an element come
in, the host that they go to may tell a name that it does not have yet; what is kept for it is that
it has no name as long as it tells none.
-/

namespace ScanQuery

/-! ### The choice among findings -/

namespace HostName

variable {h : Host}

theorem resolve?_eq_or (h : Host) :
    resolve? h =
      (((h.located.map (·.2)).filter (·.pluginId = nameResolution)).findSome? ofFinding?).or
        (((h.located.map (·.2)).filter (·.pluginId ≠ nameResolution)).findSome? ofFinding?) := by
  simp only [resolve?, List.partition_eq_filter_filter, Option.orElse_eq_or, Function.comp_def,
    ne_eq, decide_not]

/-- A host tells no name exactly when none of its findings does. -/
theorem resolve?_eq_none_iff :
    resolve? h = none ↔ ∀ f ∈ h.located.map (·.2), ofFinding? f = none := by
  rw [resolve?_eq_or, Option.or_eq_none_iff, List.findSome?_eq_none_iff,
    List.findSome?_eq_none_iff]
  constructor
  · rintro ⟨hresolving, hother⟩ f hf
    by_cases hid : f.pluginId = nameResolution
    · exact hresolving f (List.mem_filter.2 ⟨hf, by simpa using hid⟩)
    · exact hother f (List.mem_filter.2 ⟨hf, by simpa using hid⟩)
  · intro hnone
    exact ⟨fun f hf => hnone f (List.mem_filter.1 hf).1,
      fun f hf => hnone f (List.mem_filter.1 hf).1⟩

/-- A name that a host tells is the name in one of its findings. -/
theorem exists_of_resolve? {name : String} (hname : resolve? h = some name) :
    ∃ f ∈ h.located.map (·.2), ofFinding? f = some name := by
  rw [resolve?_eq_or, Option.or_eq_some_iff] at hname
  rcases hname with hname | ⟨-, hname⟩
  · obtain ⟨f, hf, hfname⟩ := List.exists_of_findSome?_eq_some hname
    exact ⟨f, (List.mem_filter.1 hf).1, hfname⟩
  · obtain ⟨f, hf, hfname⟩ := List.exists_of_findSome?_eq_some hname
    exact ⟨f, (List.mem_filter.1 hf).1, hfname⟩

/-- Where name resolution yields a name, the host tells such a name and no other. -/
theorem exists_resolving_eq_resolve? {f : Finding} (hf : f ∈ h.located.map (·.2))
    (hid : f.pluginId = nameResolution) (hname : ofFinding? f ≠ none) :
    ∃ g ∈ h.located.map (·.2), g.pluginId = nameResolution ∧ ofFinding? g = resolve? h := by
  have hmem : f ∈ (h.located.map (·.2)).filter (·.pluginId = nameResolution) :=
    List.mem_filter.2 ⟨hf, by simpa using hid⟩
  cases hfirst : ((h.located.map (·.2)).filter (·.pluginId = nameResolution)).findSome?
      ofFinding? with
  | none => exact absurd (List.findSome?_eq_none_iff.1 hfirst f hmem) hname
  | some name =>
    obtain ⟨g, hg, hgname⟩ := List.exists_of_findSome?_eq_some hfirst
    rw [List.mem_filter, decide_eq_true_eq] at hg
    refine ⟨g, hg.1, hg.2, ?_⟩
    rw [resolve?_eq_or, hfirst, hgname, Option.some_or]

/-- A host that tells no name with one more finding told none before. -/
theorem resolve?_eq_none_of_addFinding {port : String} {f : Finding}
    (hnone : resolve? (h.addFinding port f) = none) : resolve? h = none := by
  rw [resolve?_eq_none_iff] at hnone ⊢
  intro g hg
  refine hnone g ?_
  simp only [List.mem_map, Prod.exists, exists_eq_right, Host.mem_located_iff] at hg ⊢
  obtain ⟨port', hport'⟩ := hg
  refine ⟨port', ?_⟩
  rw [Host.get?_addFinding]
  split
  · next heq =>
    subst heq
    exact List.mem_append_left [f] hport'
  · exact hport'

end HostName

namespace Ingest

/-! ### Hosts with the name that they tell -/

/-- Every host has the name that its findings tell. -/
def NamesTold (c : Collection) : Prop :=
  ∀ ip h, c.host? ip = some h → h.fqdn = HostName.resolve? h

/-- Every host but one has the name that its findings tell, and that one has no name that it does
not tell. -/
structure NamesToldBut (ip : String) (c : Collection) : Prop where
  others : ∀ ip' h, ip' ≠ ip → c.host? ip' = some h → h.fqdn = HostName.resolve? h
  keeps : HostName.resolve? (c.hostOrNew ip) = none → (c.hostOrNew ip).fqdn = none

variable {c : Collection} {ip : String}

theorem NamesTold.but (hc : NamesTold c) (ip : String) : NamesToldBut ip c where
  others ip' h _ hh := hc ip' h hh
  keeps hnone := by
    rw [Collection.hostOrNew] at hnone ⊢
    cases hhost : c.host? ip with
    | none => rfl
    | some h =>
      rw [hhost] at hnone
      exact (hc ip h hhost).trans hnone

theorem hostOrNew_addItem (ip : String) (c : Collection) (i : ItemElement) :
    (addItem ip c i).hostOrNew ip = (c.hostOrNew ip).addFinding i.portKey i.finding := by
  rw [Collection.hostOrNew, host?_addItem, if_pos rfl]
  rfl

/-- The step for an item: a name that the host told before the item is told with it. -/
theorem NamesToldBut.addItem (hc : NamesToldBut ip c) (i : ItemElement) :
    NamesToldBut ip (addItem ip c i) where
  others ip' h hne hh := by
    rw [host?_addItem, if_neg hne] at hh
    exact hc.others ip' h hne hh
  keeps hnone := by
    rw [hostOrNew_addItem] at hnone ⊢
    rw [Host.fqdn_addFinding]
    exact hc.keeps (HostName.resolve?_eq_none_of_addFinding hnone)

theorem NamesToldBut.addItems_foldl (hc : NamesToldBut ip c) (items : List ItemElement) :
    NamesToldBut ip (items.foldl (Ingest.addItem ip) c) := by
  induction items generalizing c with
  | nil => exact hc
  | cons i rest ih => exact ih (hc.addItem i)

theorem hostOrNew_setHost (c : Collection) (ip : String) (h : Host) :
    (c.setHost ip h).hostOrNew ip = h := by
  rw [Collection.hostOrNew, Collection.host?_setHost, if_pos rfl, Option.getD_some]

theorem NamesToldBut.addItems {e : HostElement} (hc : NamesToldBut e.name c) :
    NamesToldBut e.name (addItems c e) := by
  have hitems := hc.addItems_foldl e.items
  unfold Ingest.addItems
  constructor
  · intro ip' h hne hh
    rw [Collection.host?_setHost, if_neg hne] at hh
    exact hitems.others ip' h hne hh
  · rw [hostOrNew_setHost]
    exact hitems.keeps

/-- A host without a name that it does not tell has the name that it tells once it is named. -/
theorem fqdn_named {h : Host} (hkeeps : HostName.resolve? h = none → h.fqdn = none) :
    (named h).fqdn = HostName.resolve? (named h) := by
  unfold named
  cases hname : HostName.resolve? h with
  | none => exact (hkeeps hname).trans hname.symm
  | some name => exact hname.symm

/-- The step for a host element. -/
theorem NamesTold.addHost (hc : NamesTold c) (e : HostElement) : NamesTold (addHost true c e) := by
  have hitems := (hc.but e.name).addItems
  intro ip h hh
  rw [Ingest.addHost, if_pos rfl, Collection.host?_setHost] at hh
  split at hh
  · obtain rfl := Option.some.inj hh
    exact fqdn_named hitems.keeps
  · next hne => exact hitems.others ip h hne hh

/-! ### The runs -/

theorem NamesTold.addDocument (hc : NamesTold c) (d : Document) :
    NamesTold (addDocument true c d) := by
  induction d generalizing c with
  | nil => exact hc
  | cons e rest ih => exact ih (hc.addHost e)

/-- Parsing texts in turn adds the host elements of the documents among them. -/
theorem collection_foldl_parse (settings : IngestSettings) (texts : List String) (p : Progress) :
    (texts.foldl (Progress.parse settings) p).collection =
      addDocument settings.resolveNames p.collection (hostElements texts) := by
  induction texts generalizing p with
  | nil => rfl
  | cons text rest ih =>
    rw [List.foldl_cons, ih, hostElements, hostElements, List.flatMap_cons]
    cases hparse : parseDocument text with
    | error fault => rw [parse_of_error hparse, List.nil_append]
    | ok d =>
      rw [parse_of_document hparse, addDocument, addDocument, addDocument, List.foldl_append]

theorem namesTold_empty : NamesTold .empty :=
  nofun

/-! ### Names and documents -/

/-- The findings that the host elements of one name report, in the order of the documents. -/
def reportedFor (elements : List HostElement) (name : String) : List Finding :=
  ((elements.filter (·.name = name)).flatMap (·.items)).map fun i =>
    ⟨i.pluginId, i.pluginName, i.severity, i.description.getD "", i.output⟩

/-- What it means that a host holds some findings and has the name that they tell. -/
structure NamedBy (findings : List Finding) (h : Host) : Prop where
  mem_iff : ∀ f, (∃ port, (port, f) ∈ h.located) ↔ f ∈ findings
  fqdn_eq : h.fqdn = HostName.resolve? h
  fqdn_none_iff : h.fqdn = none ↔ ∀ f ∈ findings, HostName.ofFinding? f = none
  fqdn_of_resolution :
    (∃ f ∈ findings, f.pluginId = HostName.nameResolution ∧ HostName.ofFinding? f ≠ none) →
      ∃ f ∈ findings, f.pluginId = HostName.nameResolution ∧ HostName.ofFinding? f = h.fqdn

theorem mem_reportedFor_iff {elements : List HostElement} {name : String} {f : Finding} :
    f ∈ reportedFor elements name ↔ ∃ port, f ∈ reportedOn elements name port := by
  simp only [reportedFor, reportedOn, List.mem_map, List.mem_filter, decide_eq_true_eq]
  constructor
  · rintro ⟨i, hi, rfl⟩
    exact ⟨_, i, ⟨hi, rfl⟩, rfl⟩
  · rintro ⟨_, i, ⟨hi, -⟩, rfl⟩
    exact ⟨i, hi, rfl⟩

/-- A host holds the findings that the elements of its name report. -/
theorem Ingested.mem_located_iff {elements : List HostElement} {p : Progress}
    (hp : Ingested elements p) {ip : String} {h : Host} (hh : p.collection.host? ip = some h)
    (f : Finding) : (∃ port, (port, f) ∈ h.located) ↔ f ∈ reportedFor elements ip := by
  have hport : ∀ port, (h.findings.get? port).getD [] = reportedOn elements ip port := by
    intro port
    have hentry := hp.entry_eq ip port
    rw [hh, Option.bind_some] at hentry
    rw [hentry]
    exact getD_entryOf? _
  simp only [Host.mem_located_iff, hport, mem_reportedFor_iff]

/-- Whatever texts are parsed in turn with names looked up, every host has in the end the name that
all its findings tell, from whichever document they are: none if none of them yields a name, and one
from name resolution where that yields any. -/
theorem names_follow_findings (extension : String) (texts : List String) (ip : String) (h : Host)
    (hh : (texts.foldl (Progress.parse ⟨extension, true⟩) .start).collection.host? ip = some h) :
    NamedBy (reportedFor (hostElements texts) ip) h := by
  have hheld := (tallied_foldl ⟨extension, true⟩ texts).ingested.mem_located_iff hh
  have htold : h.fqdn = HostName.resolve? h := by
    rw [collection_foldl_parse] at hh
    exact namesTold_empty.addDocument (hostElements texts) ip h hh
  have hmem : ∀ f, f ∈ h.located.map (·.2) ↔ f ∈ reportedFor (hostElements texts) ip := by
    intro f
    rw [← hheld, List.mem_map]
    simp
  refine ⟨hheld, htold, ?_, ?_⟩
  · rw [htold, HostName.resolve?_eq_none_iff]
    simp only [hmem]
  · rintro ⟨f, hf, hid, hname⟩
    obtain ⟨g, hg, hgid, hgname⟩ :=
      HostName.exists_resolving_eq_resolve? ((hmem f).2 hf) hid hname
    exact ⟨g, (hmem g).1 hg, hgid, hgname.trans htold.symm⟩

/-- Three texts about one host: a name table, a report that breaks off, and a resolved name. -/
def workstationTexts : List String :=
  ["<r><Report><ReportHost name=\"h\"><ReportItem pluginID=\"10150\"><plugin_output>" ++
      "WKS = a b</plugin_output></ReportItem></ReportHost></Report></r>",
    "<Report>",
    "<r><Report><ReportHost name=\"h\"><ReportItem pluginID=\"12053\"><plugin_output>" ++
      "h is wks.lan.</plugin_output></ReportItem></ReportHost></Report></r>"]

/-- The resolved name goes before the one in the table, which was found first. -/
theorem workstation_named_by_resolution :
    ∃ h, (workstationTexts.foldl (Progress.parse ⟨"nessus", true⟩) .start).collection.host? "h" =
        some h ∧
      h.fqdn = some "wks.lan" ∧ h.located.map (fun x => HostName.ofFinding? x.2) =
        [some "WKS", some "wks.lan"] ∧
      NamedBy (reportedFor (hostElements workstationTexts) "h") h := by
  have helements : hostElements workstationTexts =
      [⟨"h", [⟨"", "", "", "10150", "", none, some "WKS = a b"⟩]⟩,
        ⟨"h", [⟨"", "", "", "12053", "", none, some "h is wks.lan."⟩]⟩] := by decide +kernel
  have hshown : ((workstationTexts.foldl (Progress.parse ⟨"nessus", true⟩)
      .start).collection.host? "h").map (fun h =>
        (h.fqdn, h.located.map fun x => HostName.ofFinding? x.2)) =
          some (some "wks.lan", [some "WKS", some "wks.lan"]) := by
    rw [collection_foldl_parse, helements]
    decide +kernel
  obtain ⟨h, hh, hpair⟩ := Option.map_eq_some_iff.1 hshown
  obtain ⟨hname, htold⟩ := Prod.mk.inj hpair
  exact ⟨h, hh, hname, htold, names_follow_findings "nessus" workstationTexts "h" h hh⟩

end Ingest

end ScanQuery
