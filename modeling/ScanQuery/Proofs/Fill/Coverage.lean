import ScanQuery.Proofs.Fill.Composition
import ScanQuery.Proofs.Fill.Writing

/-!
The coverage report is exact. A document covers a plugin when one of its markers selects a finding
of it. The plugins gathered while a document is filled are, by id, those that it covers: every
marker brings the plugins of all that its query selects, whether its answer is shown or the
placeholder stands, and putting the pieces together loses no id and repeats none. What the report
lists as missing is what is left of the registered plugins, from the level up that is asked for,
sorted by severity and within a level in the order of registration.
-/

namespace ScanQuery

namespace Fill

variable {source : Source}

/-! ### What a document covers -/

/-- Whether some marker of a document asks a query that selects a finding of the plugin with an
id. -/
def IsCovered (source : Source) (document id : String) : Prop :=
  ∃ line ∈ contentLines source.settings document, ∃ rest query,
    line = source.settings.marker ++ rest ∧ Asks source.settings (Text.trim rest) query ∧
      ∃ x ∈ source.collection.selected query, x.2.2.pluginId = id

theorem mem_idsOfLine_iff {line id : String} :
    id ∈ source.idsOfLine line ↔ ∃ rest query, line = source.settings.marker ++ rest ∧
      Asks source.settings (Text.trim rest) query ∧
        ∃ x ∈ source.collection.selected query, x.2.2.pluginId = id := by
  unfold Source.idsOfLine
  constructor
  · intro hid
    cases hbody : markerBody? source.settings line with
    | none =>
      rw [hbody] at hid
      exact absurd hid List.not_mem_nil
    | some body =>
      rw [hbody] at hid
      obtain ⟨rest, hline, rfl⟩ := markerBody?_eq_some_iff.1 hbody
      exact ⟨rest, _, hline, asks_iff.2 rfl, List.mem_map.1 hid⟩
  · rintro ⟨rest, query, hline, hquery, hfound⟩
    obtain rfl := asks_iff.1 hquery
    rw [markerBody?_eq_some_iff.2 ⟨rest, hline, rfl⟩]
    exact List.mem_map.2 hfound

theorem isCovered_iff {document id : String} :
    IsCovered source document id ↔
      id ∈ (contentLines source.settings document).flatMap source.idsOfLine := by
  simp only [IsCovered, List.mem_flatMap, mem_idsOfLine_iff]

instance (source : Source) (document id : String) : Decidable (IsCovered source document id) :=
  decidable_of_iff _ isCovered_iff.symm

/-- The plugins gathered from a document are, by id, those that it covers. -/
theorem mem_ids_render_iff {document : String} {p : Progress}
    (hp : (render source document).run.value = .ok p) {id : String} :
    id ∈ p.plugins.map (·.id) ↔ IsCovered source document id := by
  obtain ⟨header, pieces, hpieces, rfl⟩ := exists_pieces_of_render source hp
  rw [isCovered_iff, ← mem_ids_pieces_iff hpieces]
  exact mem_map_firstBy _

theorem nodup_ids_render {document : String} {p : Progress}
    (hp : (render source document).run.value = .ok p) : (p.plugins.map (·.id)).Nodup := by
  obtain ⟨_, _, -, rfl⟩ := exists_pieces_of_render source hp
  exact nodup_map_firstBy _ _

/-! ### What is left -/

theorem pairwise_uncovered (source : Source) (p : Progress) :
    (uncovered source p).Pairwise fun a b => b.severity ≤ a.severity := by
  rw [uncovered, Plugin.unmatched_eq]
  exact (Plugin.pairwise_sortBySeverity _).filter _

/-- The plugins of a level that are left, in the order of registration. -/
theorem filter_uncovered {document : String} {p : Progress}
    (hp : (render source document).run.value = .ok p) (level : Severity) :
    (uncovered source p).filter (·.severity = level) =
      source.collection.plugins.filter fun plugin => plugin.severity = level ∧
        source.settings.unmatchedMinimum ≤ plugin.severity ∧
          ¬ IsCovered source document plugin.id := by
  have hswap : (uncovered source p).filter (·.severity = level) =
      ((Plugin.unmatched p.plugins source.collection.plugins).filter (·.severity = level)).filter
        fun plugin => source.settings.unmatchedMinimum ≤ plugin.severity := by
    rw [uncovered, List.filter_filter, List.filter_filter]
    exact List.filter_congr fun plugin _ => Bool.and_comm _ _
  rw [hswap, Plugin.unmatched_eq, Plugin.filter_sortBySeverity, List.filter_filter,
    List.filter_filter]
  refine List.filter_congr fun plugin _ => ?_
  rw [Bool.eq_iff_iff]
  simp only [mem_ids_render_iff hp, Bool.and_eq_true, decide_eq_true_eq]
  tauto

/-! ### The report -/

/-- What it means that an outcome reports exactly what a document covers. -/
structure ReportsCoverage (source : Source) (document : String) (o : Outcome) : Prop where
  matched_nodup : (o.matched.map (·.id)).Nodup
  mem_matched_iff : ∀ id, id ∈ o.matched.map (·.id) ↔ IsCovered source document id
  descending : o.unmatched.Pairwise fun a b => b.severity ≤ a.severity
  filter_unmatched : ∀ level, o.unmatched.filter (·.severity = level) =
    source.collection.plugins.filter fun plugin => plugin.severity = level ∧
      source.settings.unmatchedMinimum ≤ plugin.severity ∧ ¬ IsCovered source document plugin.id

/-- Whenever a document is written, what is reported of its coverage is exact. -/
theorem write_reports_coverage (source : Source) (template output : String) (o : Outcome)
    (files : FileTree) (h : (write source template output).run.value = .ok (o, files)) :
    ∃ document, source.files.read template = .ok document ∧ ReportsCoverage source document o := by
  obtain ⟨document, p, hread, hp, rfl⟩ := exists_render_of_write h
  exact ⟨document, hread, nodup_ids_render hp, fun _ => mem_ids_render_iff hp,
    pairwise_uncovered source p, filter_uncovered hp⟩

/-- A scan in which three plugins are registered, two of them with a finding, and a document with a
marker for one of these and one that mentions port overviews. -/
def coverageSource : Source :=
  ⟨"", ((openPortScan.registerPlugin "10281" "Telnet Server" "2").registerPlugin
      "11219" "SYN scanner" "0").registerPlugin "57608" "SMB" "2",
    Config.defaultOutput [],
    ⟨["home"], [(["home", "t.md"], .text "%%%NESSQ: see portscan\n%%%NESSQ:pluginid=10281\n")]⟩⟩

/-- The document is written and covers both plugins with findings, the one that scans ports through
the query for port overviews; the other plugin is reported as missing. -/
theorem write_reports_missing :
    coverageSource.collection.selected "see portscan" = [] ∧
      ∃ o files, (write coverageSource "t.md" "o.md").run.value = .ok (o, files) ∧
        o.matched.map (·.id) = ["11219", "10281"] ∧ o.unmatched.map (·.id) = ["57608"] ∧
        ∃ document, coverageSource.files.read "t.md" = .ok document ∧
          ReportsCoverage coverageSource document o := by
  have hids : (write coverageSource "t.md" "o.md").run.value.map
      (fun x => (x.1.matched.map (·.id), x.1.unmatched.map (·.id))) =
        .ok (["11219", "10281"], ["57608"]) := by
    decide +kernel
  obtain ⟨⟨o, files⟩, hwrite, hpair⟩ := map_eq_ok_iff.1 hids
  obtain ⟨hmatched, hunmatched⟩ := Prod.mk.inj hpair
  exact ⟨by decide +kernel, o, files, hwrite, hmatched, hunmatched,
    write_reports_coverage coverageSource "t.md" "o.md" o files hwrite⟩

end Fill

end ScanQuery
