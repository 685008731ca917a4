import ScanQuery.Codec.Matches
import ScanQuery.Proofs.Codec.Report

/-!
Results and their JSON form. A finding without an output and a host without a name lack a field, and
what lacks it is read as having none, while an empty text is kept. Maps have their keys in order in
either form. So nothing is lost of a result, nor of a query: when it is read back, it selects what
it selected before, and so does each of its clauses.
-/

namespace ScanQuery

open Json (Undoes)

theorem Finding.ofJson?_undoes : Undoes Finding.ofJson? Finding.toJson := by
  intro f
  have houtput := Json.optional?_optionalField "output" f.output (Json.field?_nil _)
  rw [List.append_nil] at houtput
  simp [Finding.toJson, Finding.ofJson?, houtput]

theorem Host.ofJson?_undoes : Undoes Host.ofJson? Host.toJson := by
  intro h
  have hother : ∀ w, (Json.object [("findings", w)]).field? "fqdn" = none := by simp
  simp [Host.toJson, Host.ofJson?, Json.optional?_optionalField "fqdn" h.fqdn (hother _),
    Finding.ofJson?_undoes.list.map h.findings]

theorem Collection.ofJson?_undoes : Undoes Collection.ofJson? Collection.toJson := by
  intro c
  simp [Collection.toJson, Collection.ofJson?, Host.ofJson?_undoes.map c.hosts,
    Plugin.ofJson?_undoes.list c.plugins]

theorem Matches.ofJson?_undoes : Undoes Matches.ofJson? Matches.toJson := by
  intro m
  simp [Matches.toJson, Matches.ofJson?, Header.ofJson?_undoes m.header,
    Plugin.ofJson?_undoes.list m.plugins, Collection.ofJson?_undoes m.collection,
    Json.texts_undoes m.sortedKeys, Json.texts_undoes m.sharedPorts]

/-- Whether a query selects a finding, and of each of its clauses whether the condition and whether
the clause holds. -/
def Query.verdicts (q : Query) (s : Sighting) : Bool × List (Bool × Bool) :=
  (q.holds s, q.clauses.map fun c => (c.condition.holds s, c.holds s))

/-- Queries and results are read back from their JSON form and from the text of either layout as
they were; and the query written in a text, once read back, says the same of every finding. -/
theorem queries_and_results_read_back :
    (∀ q : Query, Query.ofJson? q.toJson = some q ∧
        (Json.parse? q.toJson.compact).bind Query.ofJson? = some q ∧
        (Json.parse? q.toJson.pretty).bind Query.ofJson? = some q) ∧
      (∀ m : Matches, Matches.ofJson? m.toJson = some m ∧
        (Json.parse? m.toJson.compact).bind Matches.ofJson? = some m ∧
        (Json.parse? m.toJson.pretty).bind Matches.ofJson? = some m) ∧
      ∀ text : String, ∃ q, (Json.parse? (Query.parse text).toJson.compact).bind Query.ofJson? =
          some q ∧ ∀ s : Sighting, q.verdicts s = (Query.parse text).verdicts s :=
  ⟨fun q => ⟨Query.ofJson?_undoes q, Query.ofJson?_undoes.bind_parse? q⟩,
    fun m => ⟨Matches.ofJson?_undoes m, Matches.ofJson?_undoes.bind_parse? m⟩,
    fun text => ⟨Query.parse text, (Query.ofJson?_undoes.bind_parse? _).1, fun _ => rfl⟩⟩

end ScanQuery
