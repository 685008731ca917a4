import ScanQuery.Proofs.Filling
import ScanQuery.Proofs.Rerendering

/-!
The order in which findings arrive. Only two things about it matter: the order of the findings of
one port of one host, and which arrival is the first for an address, since it brings the name. Lists
of arrivals that agree in these fill a collection alike, so every query has the same answer, and all
that is shown of it in a built-in format is the same but for the time at which the query was run.

A collection is determined by what can be looked up in it, and what a list of arrivals leaves there
is read off the list port by port and address by address. The time is carried along and never
looked at until a text is written, where it stands in one place.
-/

namespace ScanQuery

/-- What it means that two lists of arrivals bring the same findings in the same order to every
port of every address, and the same name with the first arrival for an address. -/
structure Arrival.SameStreams (as bs : List Arrival) : Prop where
  listed_eq : ∀ ip port, listed as ip port = listed bs ip port
  fqdn_eq : ∀ ip a b, as.find? (·.ip = ip) = some a → bs.find? (·.ip = ip) = some b →
    a.fqdn = b.fqdn

/-- The collection that some arrivals fill. -/
def Collection.ofArrivals (arrivals : List Arrival) : Collection :=
  arrivals.foldl receive .empty

/-- The result with another time in its header. -/
def Matches.dated (m : Matches) (time : String) : Matches :=
  { m with header := { m.header with time := time } }

/-- The report with another time in its header. -/
def Report.dated (r : Report) (time : String) : Report :=
  { r with header := { r.header with time := time } }

/-- What a format writes for a time: the time itself, in quotes where all texts stand in quotes. -/
def Format.writtenTime (f : Format) (time : String) : String :=
  match f with
  | json => String.ofList (Json.quote time)
  | _ => time

/-- What it means that two answers are the same, or texts that are the same but for one place, where
the one has `s` and the other `s'`. -/
inductive SameBut (s s' : String) :
    Except OutputError String → Except OutputError String → Prop where
  | same (answer : Except OutputError String) : SameBut s s' answer answer
  | place (before after : String) : SameBut s s' (.ok (before ++ s ++ after))
      (.ok (before ++ s' ++ after))

/-! ### Collections -/

namespace Arrival

variable {as bs : List Arrival}

/-- An address has an arrival exactly when one of its ports has a finding. -/
theorem isSome_find?_iff {arrivals : List Arrival} {ip : String} :
    (arrivals.find? (·.ip = ip)).isSome ↔ ∃ port, listed arrivals ip port ≠ [] := by
  simp only [List.find?_isSome, ne_eq, listed_eq_nil_iff, not_not, List.mem_map, Prod.mk.injEq,
    decide_eq_true_eq]
  constructor
  · rintro ⟨a, ha, hip⟩
    exact ⟨a.port, a, ha, hip, rfl⟩
  · rintro ⟨port, a, ha, hip, -⟩
    exact ⟨a, ha, hip⟩

/-- The first arrivals for an address bring the same name, if there are any. -/
theorem SameStreams.first_eq (h : SameStreams as bs) (ip : String) :
    (as.find? (·.ip = ip)).map (fun a => (ip, a.fqdn)) =
      (bs.find? (·.ip = ip)).map fun b => (ip, b.fqdn) := by
  have hsome : (as.find? (·.ip = ip)).isSome = (bs.find? (·.ip = ip)).isSome := by
    rw [Bool.eq_iff_iff, isSome_find?_iff, isSome_find?_iff]
    simp only [h.listed_eq]
  cases ha : as.find? (·.ip = ip) with
  | none =>
    rw [ha] at hsome
    rw [Option.isNone_iff_eq_none.1 (Option.isSome_eq_false_iff.1 hsome.symm)]
  | some a =>
    rw [ha] at hsome
    obtain ⟨b, hb⟩ := Option.isSome_iff_exists.1 hsome.symm
    rw [hb, Option.map_some, Option.map_some, h.fqdn_eq ip a b ha hb]

/-- It is enough to look at the ports and addresses for which something arrives. -/
theorem sameStreams_iff : SameStreams as bs ↔ ∀ a ∈ as ++ bs,
    listed as a.ip a.port = listed bs a.ip a.port ∧
      (as.find? (·.ip = a.ip)).map (·.fqdn) = (bs.find? (·.ip = a.ip)).map (·.fqdn) := by
  constructor
  · intro h a _
    have hfirst := congrArg (Option.map Prod.snd) (h.first_eq a.ip)
    rw [Option.map_map, Option.map_map] at hfirst
    exact ⟨h.listed_eq a.ip a.port, hfirst⟩
  · intro h
    constructor
    case listed_eq =>
      intro ip port
      by_cases hmem : (ip, port) ∈ (as ++ bs).map fun a => (a.ip, a.port)
      · obtain ⟨a, ha, hpair⟩ := List.mem_map.1 hmem
        obtain ⟨rfl, rfl⟩ := Prod.mk.inj hpair
        exact (h a ha).1
      · rw [List.map_append, List.mem_append, not_or] at hmem
        rw [listed_eq_nil_iff.2 hmem.1, listed_eq_nil_iff.2 hmem.2]
    case fqdn_eq =>
      intro ip a b ha hb
      have hip : a.ip = ip := by simpa using List.find?_some ha
      have hfirst := (h a (List.mem_append_left bs (List.mem_of_find?_eq_some ha))).2
      rw [hip, ha, hb] at hfirst
      exact Option.some.inj hfirst

instance : Decidable (SameStreams as bs) :=
  decidable_of_iff _ sameStreams_iff.symm

end Arrival

namespace Collection

/-- Collections that are filled by the same streams hold the same hosts. -/
theorem Filled.hosts_eq {as bs : List Arrival} {c c' : Collection} (hc : Filled as c)
    (hc' : Filled bs c') (h : Arrival.SameStreams as bs) : c.hosts = c'.hosts := by
  refine hosts_ext (fun ip => ?_) fun ip port => ?_
  · rw [hc.host_eq, hc'.host_eq, h.first_eq]
  · rw [hc.entry_eq, hc'.entry_eq, h.listed_eq]

end Collection

/-! ### Times -/

namespace Matches

variable (m : Matches) (time : String)

theorem dated_foldl_add (found : List (Host × String × Finding)) :
    (found.foldl Matches.add m).dated time = found.foldl Matches.add (m.dated time) := by
  induction found generalizing m with
  | nil => rfl
  | cons x rest ih => exact ih (m.add x)

theorem ensureSorted_dated : (m.dated time).ensureSorted = m.ensureSorted.dated time := by
  show (if m.sortedKeys.length = m.collection.hosts.size then m.dated time
    else (m.dated time).sortHosts) = _
  unfold ensureSorted
  split <;> rfl

/-- The decision on a layout does not depend on the time. -/
theorem resolveLayout_dated :
    (m.dated time).resolveLayout = (m.resolveLayout.1, m.resolveLayout.2.dated time) := by
  have hcompare : (m.ensureSorted.dated time).comparePorts = m.ensureSorted.comparePorts :=
    comparePorts_congr rfl rfl rfl
  rw [resolveLayout, resolveLayout, ensureSorted_dated, hcompare]
  cases m.ensureSorted.comparePorts with
  | error e => rfl
  | ok found =>
    obtain ⟨first, ports, other⟩ := found
    cases other <;> rfl

end Matches

/-- A query that is run at another time has the same answer, but for the time. -/
theorem dated_runQuery (time time' text : String) (c : Collection) :
    (runQuery time' text c).dated time = runQuery time text c := by
  have hfold := Matches.dated_foldl_add (.new time' (Query.parse text).text) time
    (c.located.filter (Query.parse text).selects)
  exact congrArg Matches.updateCounts hfold

/-- A query reads nothing of a collection but its hosts. -/
theorem runQuery_congr_hosts {c c' : Collection} (h : c.hosts = c'.hosts) (time text : String) :
    runQuery time text c = runQuery time text c' := by
  rw [runQuery, runQuery, Query.evaluate, Query.evaluate, Collection.located, Collection.located, h]

/-! ### Texts -/

/-- The value of the first field of an object is written in one place. -/
theorem Json.exists_prettyChars_first (depth : Nat) (key : String) (rest : List (String × Json)) :
    ∃ before after, ∀ v, (object ((key, v) :: rest)).prettyChars depth =
      before ++ v.prettyChars (depth + 1) ++ after := by
  refine ⟨'\x7b' :: (newLine (depth + 1) ++ quote key ++ [':', ' ']),
    (if rest = [] then [] else ',' :: prettyFields (depth + 1) rest) ++ newLine depth ++ ['\x7d'],
    fun v => ?_⟩
  cases rest with
  | nil => simp [prettyChars, prettyFields]
  | cons field rest => simp [prettyChars, prettyFields]

namespace Report

variable (r : Report)

/-- Whatever stands behind the plugins, the time stands in one place. -/
theorem exists_text_dated (lines : List String) : ∃ before after, ∀ time,
    text ((r.dated time).headerLines ++ r.pluginLines ++ lines) = before ++ time ++ after := by
  refine ⟨"Query: " ++ r.header.query ++ "\n" ++ "Time:  ",
    "\n" ++ ("" ++ "\n" ++ text (r.pluginLines ++ lines)), fun time => ?_⟩
  rw [List.append_assoc]
  show "Query: " ++ r.header.query ++ "\n" ++ ("Time:  " ++ time ++ "\n" ++
    ("" ++ "\n" ++ text (r.pluginLines ++ lines))) = _
  simp only [String.append_assoc]

/-- The time is the first field of the header, which is the first field of a report. -/
theorem exists_json_dated : ∃ before after, ∀ time,
    (r.dated time).json = before ++ Format.json.writtenTime time ++ after := by
  obtain ⟨before, after, hreport⟩ := Json.exists_prettyChars_first 0 "header"
    [("matched_plugins", .array (r.plugins.map Plugin.toJson)),
      ("all_same_ports", .string r.sharedPorts), ("finding_lines", .array (r.rows.map Row.toJson))]
  obtain ⟨before', after', hheader⟩ := Json.exists_prettyChars_first 1 "call_time"
    [("query", .string r.header.query)]
  refine ⟨String.ofList (before ++ before'), String.ofList (after' ++ after), fun time => ?_⟩
  have hchars : (r.dated time).toJson.prettyChars 0 =
      before ++ (before' ++ Json.quote time ++ after') ++ after :=
    (hreport _).trans (congrArg (fun cs => before ++ cs ++ after) (hheader (.string time)))
  rw [json, Json.pretty, hchars, Format.writtenTime, ← String.ofList_append,
    ← String.ofList_append]
  simp only [List.append_assoc]

end Report

/-- Whatever the format and the layout, the time is written in one place. -/
theorem Format.exists_present_dated (f : Format) (layout : Layout) (r : Report) :
    ∃ before after, ∀ time,
      f.present layout (r.dated time) = before ++ f.writtenTime time ++ after := by
  cases f with
  | json => exact r.exists_json_dated
  | list => exact r.exists_text_dated r.hostLines
  | table => exact r.exists_text_dated r.tableLines
  | auto =>
    cases layout with
    | list ports => exact r.exists_text_dated r.hostLines
    | table => exact r.exists_text_dated r.tableLines

/-! ### Answers -/

namespace Matches

variable (m : Matches) (f : Format) (time time' : String)

/-- Two results that differ in the time are shown alike, but for the time. -/
theorem sameBut_render_dated : SameBut (f.writtenTime time) (f.writtenTime time')
    ((Renderer.builtin f).render (m.dated time)).1
    ((Renderer.builtin f).render (m.dated time')).1 := by
  have hrender : ∀ time, ((Renderer.builtin f).render (m.dated time)).1 =
      ((Renderer.prepare m).resolveLayout.1.mapError .layout).map fun layout =>
        f.present layout ((Report.ofMatches (Renderer.prepare m).resolveLayout.2).dated time) := by
    intro time
    have hresolve := (Renderer.prepare m).resolveLayout_dated time
    unfold Renderer.render
    rw [show Renderer.prepare (m.dated time) = (Renderer.prepare m).dated time from rfl, hresolve]
    cases (Renderer.prepare m).resolveLayout.1 <;> rfl
  rw [hrender, hrender]
  cases (Renderer.prepare m).resolveLayout.1 with
  | error e =>
    simp only [Except.mapError, Except.map]
    exact .same _
  | ok layout =>
    obtain ⟨before, after, h⟩ := f.exists_present_dated layout
      (Report.ofMatches (Renderer.prepare m).resolveLayout.2)
    simp only [Except.mapError, Except.map, h]
    exact .place before after

theorem sameBut_fetch_dated : SameBut (f.writtenTime time) (f.writtenTime time')
    ((m.dated time).fetch (.builtin f)).1 ((m.dated time').fetch (.builtin f)).1 := by
  have hfetch : ∀ time, ((m.dated time).fetch (.builtin f)).1 =
      if m.isEmpty then .ok (placeholderOf defaultMarker)
      else ((Renderer.builtin f).render (m.dated time)).1 := by
    intro time
    have hempty : (m.dated time).isEmpty = m.isEmpty := rfl
    rw [fetch, hempty]
    split <;> rfl
  rw [hfetch, hfetch]
  split
  · exact .same _
  · exact m.sameBut_render_dated f time time'

end Matches

/-- Findings that come in another order, but in the same one on every port of every host, and with
the same name first, make no difference: neither to the hosts nor to the answer to any query, nor to
what is shown of it, the time of the query apart. -/
theorem arrival_order_irrelevant {as bs : List Arrival} (h : Arrival.SameStreams as bs) :
    (Collection.ofArrivals as).hosts = (Collection.ofArrivals bs).hosts ∧
      ∀ time time' text,
        runQuery time text (Collection.ofArrivals as) =
            (runQuery time' text (Collection.ofArrivals bs)).dated time ∧
          ∀ f : Format,
            SameBut (f.writtenTime time) (f.writtenTime time')
                ((Renderer.builtin f).render (runQuery time text (.ofArrivals as))).1
                ((Renderer.builtin f).render (runQuery time' text (.ofArrivals bs))).1 ∧
              SameBut (f.writtenTime time) (f.writtenTime time')
                ((runQuery time text (.ofArrivals as)).fetch (.builtin f)).1
                ((runQuery time' text (.ofArrivals bs)).fetch (.builtin f)).1 := by
  have hhosts := (Collection.filled_foldl as).hosts_eq (Collection.filled_foldl bs) h
  refine ⟨hhosts, fun time time' text => ?_⟩
  have hanswer : runQuery time text (.ofArrivals as) = runQuery time text (.ofArrivals bs) :=
    runQuery_congr_hosts hhosts time text
  have hrender := (runQuery time' text (.ofArrivals bs)).sameBut_render_dated
  have hfetch := (runQuery time' text (.ofArrivals bs)).sameBut_fetch_dated
  simp only [dated_runQuery] at hrender hfetch
  rw [hanswer, dated_runQuery]
  exact ⟨rfl, fun f => ⟨hrender f time time', hfetch f time time'⟩⟩

/-- Findings of two hosts, the named one of which comes first. -/
def morningArrivals : List Arrival :=
  [⟨"10.0.0.9", some "mail", "25/tcp", ⟨"1", "SMTP", "2", "", none⟩⟩,
    ⟨"10.0.0.10", none, "80/tcp", ⟨"2", "HTTP", "2", "", none⟩⟩,
    ⟨"10.0.0.9", none, "25/tcp", ⟨"3", "TLS", "3", "", none⟩⟩,
    ⟨"10.0.0.9", none, "22/tcp", ⟨"4", "SSH", "0", "", none⟩⟩]

/-- The same findings with another host, another port and a name that is too late first. -/
def eveningArrivals : List Arrival :=
  [⟨"10.0.0.10", none, "80/tcp", ⟨"2", "HTTP", "2", "", none⟩⟩,
    ⟨"10.0.0.9", some "mail", "22/tcp", ⟨"4", "SSH", "0", "", none⟩⟩,
    ⟨"10.0.0.9", some "smtp", "25/tcp", ⟨"1", "SMTP", "2", "", none⟩⟩,
    ⟨"10.0.0.9", some "smtp", "25/tcp", ⟨"3", "TLS", "3", "", none⟩⟩]

/-- They make the same hosts, and a query shows them as the same table. -/
theorem arrival_order_irrelevant_day :
    Arrival.SameStreams morningArrivals eveningArrivals ∧
      (runQuery "9:00" "sev>=med" (.ofArrivals morningArrivals)).collection.counts = ⟨2, 2, 3⟩ ∧
      (Collection.ofArrivals morningArrivals).hosts =
        (Collection.ofArrivals eveningArrivals).hosts ∧
      SameBut "9:00" "21:00"
        ((Renderer.builtin .table).render
          (runQuery "9:00" "sev>=med" (.ofArrivals morningArrivals))).1
        ((Renderer.builtin .table).render
          (runQuery "21:00" "sev>=med" (.ofArrivals eveningArrivals))).1 := by
  have hsame : Arrival.SameStreams morningArrivals eveningArrivals := by decide +kernel
  obtain ⟨hhosts, hanswers⟩ := arrival_order_irrelevant hsame
  obtain ⟨-, hshown⟩ := hanswers "9:00" "21:00" "sev>=med"
  exact ⟨hsame, by decide +kernel, hhosts, (hshown .table).1⟩

end ScanQuery
