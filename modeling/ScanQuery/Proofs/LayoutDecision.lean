import ScanQuery.Proofs.ResultState

/-!
The layout of a result is decided rightly in every reachable state. There is an error exactly when
no host is held; hosts are listed exactly when all of them have the same ports, and the ports named
are those, strictly ascending; in every other case there is a table. The format `auto` and a pair
of templates follow the decision: the text is that of the list or of the table, and of the pair the
template for the layout gives it.

The sorted keys are those of all hosts by the time the ports are compared, and comparing two sorted
lists of ports is comparing two sets.
-/

namespace ScanQuery

/-- Two hosts show the same ports exactly when they have the same set of them. -/
theorem Host.affectedPorts_eq_iff {h h' : Host} :
    h.affectedPorts = h'.affectedPorts ↔
      ∀ port, port ∈ h.findings.keys ↔ port ∈ h'.findings.keys :=
  Port.sortKeys_eq_iff_perm.trans
    (List.perm_ext_iff_of_nodup h.findings.keys_nodup h'.findings.keys_nodup)

/-! ### Templates without braces -/

namespace Template

theorem untilOpening_of_not_mem :
    ∀ {cs : List Char}, '\x7b' ∉ cs → untilOpening cs = (cs, [])
  | [], _ => rfl
  | [_], _ => rfl
  | c :: d :: cs, h => by
    rw [List.mem_cons, not_or] at h
    rw [untilOpening, if_neg fun hopen => h.1 hopen.1.symm, untilOpening_of_not_mem h.2]

/-- A text without an opening brace is a template that gives itself for every report. -/
theorem render_of_not_mem {source : String} (h : '\x7b' ∉ source.toList) (report : Json) :
    render source report = .ok source := by
  have hpieces : piecesOf source = .ok [.text source] := by
    simp only [piecesOf, pieces, untilOpening_of_not_mem h, trimStartIf]
    simp
  have hnodes : Node.parse source = .ok [.text source] := by
    rw [Node.parse, hpieces]
    simp [Node.ofPieces, Node.run, bind, Except.bind, pure, Except.pure]
  rw [render, hnodes]
  simp [Node.evalAll, Node.eval, bind, Except.bind, pure, Except.pure]

end Template

namespace Matches

/-- Whether all hosts of a result have the same set of ports. -/
def SamePorts (m : Matches) : Prop :=
  ∀ h ∈ m.collection.hosts.values, ∀ h' ∈ m.collection.hosts.values,
    ∀ port, port ∈ h.findings.keys ↔ port ∈ h'.findings.keys

/-- Whether two renderers cannot be told apart on a result. -/
def ShownAlike (m : Matches) (r r' : Renderer) : Prop :=
  r.render m = r'.render m ∧ m.fetch r = m.fetch r'

/-- Whether a renderer makes the text of a result in a given way from the report of it. -/
def TextIs (m : Matches) (r : Renderer) (text : Report → Except OutputError String) : Prop :=
  (r.render m).1 = text (.ofMatches (r.render m).2)

/-- What it means that a layout decides how a result is shown: the format `auto` is one of the
other formats, with the text that is written for it, and of every pair of templates one is chosen,
whose text it is. -/
structure Follows (m : Matches) (format : Format) (written : Report → String)
    (chosen : TemplateFile → TemplateFile → TemplateFile) : Prop where
  auto_alike : m.ShownAlike (.builtin .auto) (.builtin format)
  auto_text : m.TextIs (.builtin .auto) fun report => .ok (written report)
  pair_alike : ∀ list table,
    m.ShownAlike (.custom (.byLayout list table)) (.custom (.single (chosen list table)))
  pair_text : ∀ list table,
    m.TextIs (.custom (.byLayout list table)) (chosen list table).render

/-- The ports shown for the host under a key. -/
def portsAt (m : Matches) (ip : String) : List String :=
  ((m.collection.host? ip).map Host.affectedPorts).getD []

/-! ### Comparing ports -/

theorem portsOf_of_held {m : Matches} {ip : String} (hip : ip ∈ m.collection.hosts.keys) :
    m.portsOf ip = .ok (m.portsAt ip) := by
  obtain ⟨h, hh⟩ := Option.isSome_iff_exists.1 (KeyMap.mem_keys_iff.1 hip)
  have hhost : m.collection.host? ip = some h := hh
  rw [portsOf, portsAt, hhost]
  rfl

theorem firstOther_of_held {m : Matches} (ports : List String) :
    ∀ {ips : List String}, (∀ ip ∈ ips, ip ∈ m.collection.hosts.keys) →
      m.firstOther ports ips = .ok (ips.find? fun ip => m.portsAt ip ≠ ports)
  | [], _ => rfl
  | ip :: rest, hheld => by
    rw [firstOther, portsOf_of_held (hheld ip List.mem_cons_self)]
    by_cases heq : m.portsAt ip = ports
    · rw [List.find?_cons_of_neg (by simpa using heq)]
      simp only [heq, if_true]
      exact firstOther_of_held ports fun ip h => hheld ip (List.mem_cons_of_mem _ h)
    · rw [List.find?_cons_of_pos (by simpa using heq)]
      simp only [heq, if_false]

theorem comparePorts_of_held {m : Matches} {first : String} {rest : List String}
    (hkeys : m.sortedKeys = first :: rest)
    (hheld : ∀ ip ∈ m.sortedKeys, ip ∈ m.collection.hosts.keys) :
    m.comparePorts = .ok (first, m.portsAt first,
      (first :: rest).find? fun ip => m.portsAt ip ≠ m.portsAt first) := by
  rw [hkeys] at hheld
  rw [comparePorts, hkeys]
  simp only [portsOf_of_held (hheld first List.mem_cons_self), firstOther_of_held _ hheld]
  rfl

/-- All hosts have the same ports exactly when each shows those of one of them. -/
theorem samePorts_iff_of_mem {m : Matches} {h : Host} (hmem : h ∈ m.collection.hosts.values) :
    m.SamePorts ↔ ∀ ip ∈ m.collection.hosts.keys, m.portsAt ip = h.affectedPorts := by
  have hat : ∀ ip h', m.collection.hosts.get? ip = some h' → m.portsAt ip = h'.affectedPorts := by
    intro ip h' hh'
    rw [portsAt, Collection.host?, hh']
    rfl
  constructor
  · intro hsame ip hip
    obtain ⟨h', hh'⟩ := Option.isSome_iff_exists.1 (KeyMap.mem_keys_iff.1 hip)
    rw [hat ip h' hh', Host.affectedPorts_eq_iff]
    exact hsame h' (KeyMap.mem_values_iff.2 ⟨ip, hh'⟩) h hmem
  · intro hall h₁ hh₁ h₂ hh₂
    obtain ⟨ip₁, hip₁⟩ := KeyMap.mem_values_iff.1 hh₁
    obtain ⟨ip₂, hip₂⟩ := KeyMap.mem_values_iff.1 hh₂
    rw [← Host.affectedPorts_eq_iff, ← hat ip₁ h₁ hip₁, ← hat ip₂ h₂ hip₂,
      hall ip₁ (KeyMap.mem_keys_iff.2 (hip₁ ▸ rfl)), hall ip₂ (KeyMap.mem_keys_iff.2 (hip₂ ▸ rfl))]

/-! ### The decision -/

/-- A result without hosts, one whose hosts all have the ports of some host, or any other. -/
theorem Tracked.layout_cases {m : Matches} (hm : Tracked m) :
    (m.collection.hosts.values = [] ∧
        m.resolveLayout.1 = .error (.noMatchedHosts m.header.query)) ∨
      (∃ h ∈ m.collection.hosts.values, m.SamePorts ∧
        m.resolveLayout.1 = .ok (.list h.affectedPorts)) ∨
      (¬ m.SamePorts ∧ m.resolveLayout.1 = .ok .table) := by
  have hperm := hm.sortedKeys_perm
  have hheld := hm.ensureSorted.held
  have hportsAt : ∀ ip, m.ensureSorted.portsAt ip = m.portsAt ip := fun ip => by
    rw [portsAt, collection_ensureSorted, portsAt]
  cases hkeys : m.ensureSorted.sortedKeys with
  | nil =>
    refine .inl ⟨?_, ?_⟩
    · rw [hkeys] at hperm
      exact KeyMap.values_eq_nil_iff.2 hperm.nil_eq.symm
    · simp only [Matches.resolveLayout, comparePorts, hkeys, header_ensureSorted]
  | cons first rest =>
    -- the first host is compared with itself too, so it is never the one that differs
    have hcompare := comparePorts_of_held hkeys hheld
    have hfirst : first ∈ m.collection.hosts.keys :=
      hperm.mem_iff.1 (hkeys ▸ List.mem_cons_self)
    obtain ⟨h, hh⟩ := Option.isSome_iff_exists.1 (KeyMap.mem_keys_iff.1 hfirst)
    have hmem : h ∈ m.collection.hosts.values := KeyMap.mem_values_iff.2 ⟨first, hh⟩
    have hports : m.portsAt first = h.affectedPorts := by
      rw [portsAt, Collection.host?, hh]
      rfl
    have hsame : m.SamePorts ↔
        (first :: rest).find? (fun ip => m.ensureSorted.portsAt ip ≠ h.affectedPorts) = none := by
      rw [samePorts_iff_of_mem hmem, List.find?_eq_none, ← hkeys]
      simp [hportsAt, hperm.mem_iff]
    rw [hportsAt, hports] at hcompare
    cases hother : (first :: rest).find? fun ip => m.ensureSorted.portsAt ip ≠ h.affectedPorts with
    | none =>
      refine .inr (.inl ⟨h, hmem, hsame.2 hother, ?_⟩)
      simp only [Matches.resolveLayout, hcompare, hother]
    | some other =>
      refine .inr (.inr ⟨fun hs => ?_, ?_⟩)
      · exact Option.some_ne_none other (hother.symm.trans (hsame.1 hs))
      · simp only [Matches.resolveLayout, hcompare, hother]

theorem Tracked.list_iff {m : Matches} (hm : Tracked m) :
    (∃ ports, m.resolveLayout.1 = .ok (.list ports)) ↔
      m.collection.hosts.values ≠ [] ∧ m.SamePorts := by
  rcases hm.layout_cases with ⟨hnone, hres⟩ | ⟨h, hmem, hsame, hres⟩ | ⟨hother, hres⟩
  · simp [hres, hnone]
  · simp [hres, hsame, List.ne_nil_of_mem hmem]
  · simp [hres, hother]

theorem Tracked.table_iff {m : Matches} (hm : Tracked m) :
    m.resolveLayout.1 = .ok .table ↔ ¬ m.SamePorts := by
  rcases hm.layout_cases with ⟨hnone, hres⟩ | ⟨h, hmem, hsame, hres⟩ | ⟨hother, hres⟩
  · simp [hres, SamePorts, hnone]
  · simp [hres, hsame]
  · simp [hres, hother]

theorem Tracked.noMatchedHosts_iff {m : Matches} (hm : Tracked m) :
    m.resolveLayout.1 = .error (.noMatchedHosts m.header.query) ↔
      m.collection.hosts.values = [] := by
  rcases hm.layout_cases with ⟨hnone, hres⟩ | ⟨h, hmem, hsame, hres⟩ | ⟨hother, hres⟩
  · simp [hres, hnone]
  · simp [hres, List.ne_nil_of_mem hmem]
  · simp only [hres, reduceCtorEq, false_iff]
    intro hnone
    exact hother fun h hh => by rw [hnone] at hh; exact nomatch hh

/-- The ports of a list are those of every host, strictly ascending. -/
theorem Tracked.ports_of_list {m : Matches} (hm : Tracked m) {ports : List String}
    (hlist : m.resolveLayout.1 = .ok (.list ports)) :
    (ports.Pairwise fun a b => Port.compareKeys a b = .lt) ∧
      ∀ h ∈ m.collection.hosts.values, ∀ port, port ∈ ports ↔ port ∈ h.findings.keys := by
  rcases hm.layout_cases with ⟨hnone, hres⟩ | ⟨h, hmem, hsame, hres⟩ | ⟨hother, hres⟩
  · exact nomatch hres.symm.trans hlist
  · obtain rfl : h.affectedPorts = ports := by simpa [hres] using hlist
    refine ⟨Port.pairwise_lt_sortKeys h.findings.keys_nodup, fun h' hmem' port => ?_⟩
    rw [Host.affectedPorts, (Port.sortKeys_perm _).mem_iff]
    exact hsame h hmem h' hmem' port
  · exact nomatch hres.symm.trans hlist

/-! ### What follows the decision -/

section Following

variable {m : Matches} {layout : Layout} {r r' : Renderer}

/-- What a renderer shows of a result that has a layout is what it makes of the report. -/
theorem render_of_layout (hlayout : (Renderer.prepare m).resolveLayout.1 = .ok layout)
    (r : Renderer) :
    r.render m = (r.apply layout (.ofMatches (Renderer.prepare m).resolveLayout.2),
      (Renderer.prepare m).resolveLayout.2) := by
  unfold Renderer.render
  cases hres : (Renderer.prepare m).resolveLayout with
  | mk outcome left =>
    obtain rfl : outcome = .ok layout := by simpa [hres] using hlayout
    rfl

/-- Renderers that agree on a layout cannot be told apart on a result shown in it. -/
theorem shownAlike_of_apply_eq (hlayout : (Renderer.prepare m).resolveLayout.1 = .ok layout)
    (happly : ∀ report, r.apply layout report = r'.apply layout report) :
    m.ShownAlike r r' := by
  have hrender : r.render m = r'.render m := by
    rw [render_of_layout hlayout, render_of_layout hlayout, happly]
  refine ⟨hrender, ?_⟩
  unfold fetch
  rw [hrender]

theorem textIs_of_apply_eq (hlayout : (Renderer.prepare m).resolveLayout.1 = .ok layout)
    {text : Report → Except OutputError String}
    (happly : ∀ report, r.apply layout report = text report) : m.TextIs r text := by
  rw [TextIs, render_of_layout hlayout]
  exact happly _

/-- It is enough to know which text and which template the layout leads to. -/
theorem follows_of_layout {format : Format} {written : Report → String}
    {chosen : TemplateFile → TemplateFile → TemplateFile}
    (hlayout : (Renderer.prepare m).resolveLayout.1 = .ok layout)
    (hauto : ∀ report, Format.auto.present layout report = written report)
    (hformat : ∀ report, format.present layout report = written report)
    (hpair : ∀ list table, (CustomTemplate.byLayout list table).select layout = chosen list table) :
    m.Follows format written chosen where
  auto_alike := shownAlike_of_apply_eq hlayout fun report =>
    congrArg Except.ok ((hauto report).trans (hformat report).symm)
  auto_text := textIs_of_apply_eq hlayout fun report => congrArg Except.ok (hauto report)
  pair_alike list table := shownAlike_of_apply_eq hlayout fun report =>
    congrArg (·.render report) (hpair list table)
  pair_text list table := textIs_of_apply_eq hlayout fun report =>
    congrArg (·.render report) (hpair list table)

/-- In a list, `auto` is the list and a pair of templates the one for lists. -/
theorem Tracked.follows_list (hm : Tracked m)
    (hlist : ∃ ports, m.resolveLayout.1 = .ok (.list ports)) :
    m.Follows .list Report.list fun list _ => list := by
  -- sorting the result first changes none of its hosts
  obtain ⟨ports, hports⟩ := (tracked_prepare m).list_iff.2 (hm.list_iff.1 hlist)
  exact follows_of_layout hports (fun _ => rfl) (fun _ => rfl) fun _ _ => rfl

/-- In a table, `auto` is the table and a pair of templates the one for tables. -/
theorem Tracked.follows_table (hm : Tracked m) (htable : m.resolveLayout.1 = .ok .table) :
    m.Follows .table Report.table fun _ table => table := by
  have hprepared := (tracked_prepare m).table_iff.2 (hm.table_iff.1 htable)
  exact follows_of_layout hprepared (fun _ => rfl) (fun _ => rfl) fun _ _ => rfl

end Following

/-- In every reachable state the layout is an error, a list or a table as the hosts demand, and
what is shown follows it: `auto` is the text of the list or of the table, and of a pair of templates
the one for lists or the one for tables gives the text. -/
theorem resolveLayout_decides {m : Matches} (hm : Reachable m) :
    (m.resolveLayout.1 = .error (.noMatchedHosts m.header.query) ↔
        m.collection.hosts.values = []) ∧
      (∀ ip, m.resolveLayout.1 ≠ .error (.missingHost ip)) ∧
      ((∃ ports, m.resolveLayout.1 = .ok (.list ports)) ↔
        m.collection.hosts.values ≠ [] ∧ m.SamePorts) ∧
      (∀ ports, m.resolveLayout.1 = .ok (.list ports) →
        (ports.Pairwise fun a b => Port.compareKeys a b = .lt) ∧
          ∀ h ∈ m.collection.hosts.values, ∀ port, port ∈ ports ↔ port ∈ h.findings.keys) ∧
      (m.resolveLayout.1 = .ok .table ↔ ¬ m.SamePorts) ∧
      ((∃ ports, m.resolveLayout.1 = .ok (.list ports)) →
        m.Follows .list Report.list fun list _ => list) ∧
      (m.resolveLayout.1 = .ok .table → m.Follows .table Report.table fun _ table => table) := by
  have hinv := hm.tracked
  refine ⟨hinv.noMatchedHosts_iff, fun ip hip => ?_, hinv.list_iff, fun _ => hinv.ports_of_list,
    hinv.table_iff, hinv.follows_list, hinv.follows_table⟩
  rcases hinv.layout_cases with ⟨-, hres⟩ | ⟨h, -, -, hres⟩ | ⟨-, hres⟩ <;>
    exact nomatch hres.symm.trans hip

/-- A result to which a host was added behind the last sorting. -/
def outgrown : Matches :=
  (((Matches.new "" "sev>=med").addFinding "10.0.0.10" none "80/tcp" ⟨"1", "a", "2", "", none⟩
    ).sortHosts).addFinding "10.0.0.9" none "443/tcp" ⟨"1", "a", "2", "", none⟩

/-- A template for lists and one for tables. -/
def pairOfTemplates : Renderer :=
  .custom (.byLayout ⟨"list.txt", "in a list"⟩ ⟨"table.txt", "in a table"⟩)

/-- The new host has other ports than the one whose key was sorted, so there is a table, and the
template for tables gives the text. -/
theorem outgrown_resolves_to_table :
    Reachable outgrown ∧ ¬ outgrown.SamePorts ∧ outgrown.resolveLayout.1 = .ok .table ∧
      outgrown.Follows .table Report.table (fun _ table => table) ∧
      (pairOfTemplates.render outgrown).1 = .ok "in a table" := by
  have hreach : Reachable outgrown :=
    .act (.addFinding ..) (.act .sortHosts (.act (.addFinding ..) (.new ..)))
  have hkeys : outgrown.collection.hosts.values.map (·.findings.keys) =
      [["80/tcp"], ["443/tcp"]] := by decide
  have hother : ¬ outgrown.SamePorts := by
    intro hsame
    obtain ⟨h, hh, hport⟩ := List.mem_map.1 (hkeys ▸ List.mem_cons_self)
    obtain ⟨h', hh', hport'⟩ :=
      List.mem_map.1 (hkeys ▸ List.mem_cons_of_mem ["80/tcp"] List.mem_cons_self)
    have hiff := hsame h hh h' hh' "80/tcp"
    rw [hport, hport'] at hiff
    exact absurd (hiff.1 List.mem_cons_self) (by decide)
  obtain ⟨-, -, -, -, htable, -, hfollows⟩ := resolveLayout_decides hreach
  have hlayout := htable.2 hother
  have htext := (hfollows hlayout).pair_text ⟨"list.txt", "in a list"⟩ ⟨"table.txt", "in a table"⟩
  refine ⟨hreach, hother, hlayout, hfollows hlayout, htext.trans ?_⟩
  rw [TemplateFile.render, Template.render_of_not_mem (by decide)]

end Matches

end ScanQuery
