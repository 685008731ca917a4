import ScanQuery.Proofs.Fill.Markers

/-!
Filling is compositional. A document that is made of two, the first of them ending with a line, is
filled by filling both: the texts follow each other, the lines and the markers add up, and of the
plugins of the second those are new whose ids the first does not have. Neither part may begin with
a marker that names templates, for this is a header at the beginning of a document and a query
everywhere else.

So a document is known when its lines are. A line that is no marker is copied, and a marker line is
replaced by what the answer to its query is shown as, ended by one line feed, or by the placeholder.
-/

namespace ScanQuery

namespace Text

/-- `t` is `s` with one line feed at its end in place of all that stand there. -/
def EndedOnce (s t : String) : Prop :=
  ∃ (front : List Char) (n : Nat), front.getLast? ≠ some '\n' ∧
    s.toList = front ++ List.replicate n '\n' ∧ t.toList = front ++ ['\n']

theorem endedOnce_dropFinalNewlines (s : String) : EndedOnce s (dropFinalNewlines s ++ "\n") := by
  obtain ⟨n, heq, hlast⟩ := exists_dropFinalNewlines s
  exact ⟨_, n, hlast, heq, by rw [String.toList_append]; rfl⟩

end Text

namespace Fill

/-! ### Pieces -/

/-- The progress of two documents one behind the other. -/
def Progress.append (p q : Progress) : Progress where
  text := p.text ++ q.text
  lines := p.lines + q.lines
  markers := p.markers + q.markers
  plugins := p.plugins ++ q.plugins.filter fun plugin => plugin.id ∉ p.plugins.map (·.id)

/-- Reducing the plugins of both parts and then those of the second by the first is reducing all. -/
theorem ofPieces_append (header : Nat) (pieces more : List Piece) :
    Progress.ofPieces header (pieces ++ more) =
      (Progress.ofPieces header pieces).append (.ofPieces 0 more) := by
  simp only [Progress.append, Progress.ofPieces, Progress.mk.injEq, List.map_append,
    String.join_append, List.length_append, Nat.zero_add, Nat.add_assoc, List.sum_append,
    List.flatMap_append, firstBy_append, true_and]
  refine congrArg _ (List.filter_congr fun plugin _ => ?_)
  exact decide_eq_decide.2 (not_congr (mem_map_firstBy _).symm)

theorem ofPieces_singleton {x : Piece} (h : (x.plugins.map (·.id)).Nodup) :
    Progress.ofPieces 0 [x] = ⟨x.text, 1, x.markers, x.plugins⟩ := by
  simp [Progress.ofPieces, firstBy_of_nodup _ h]

/-! ### Documents of two parts -/

variable {source : Source} {settings : OutputSettings}

/-- What follows a document does not stand on its first line, unless there is none. -/
theorem plainStart_append {first second : String}
    (hend : first = "" ∨ ∃ front, first = front ++ "\n") (hfirst : PlainStart settings first)
    (hsecond : PlainStart settings second) : PlainStart settings (first ++ second) := by
  unfold PlainStart at hfirst hsecond ⊢
  rw [Text.lines_append hend]
  cases hlines : Text.lines first with
  | nil => exact hsecond
  | cons line rest =>
    rw [hlines] at hfirst
    exact hfirst

theorem exists_render_of_plainStart {document : String}
    (hplain : PlainStart source.settings document) :
    ∃ pieces, (Text.lines document).mapM (pieceOf source (.builtin .auto)) = .ok pieces ∧
      (render source document).run.value = .ok (.ofPieces 0 pieces) := by
  obtain ⟨pieces, hpieces⟩ := exists_pieces_builtin source .auto (Text.lines document)
  refine ⟨pieces, hpieces, ?_⟩
  rw [value_render_of_plainStart source hplain, hpieces]
  rfl

theorem render_append {first second : String}
    (hend : first = "" ∨ ∃ front, first = front ++ "\n")
    (hfirst : PlainStart source.settings first) (hsecond : PlainStart source.settings second) :
    ∃ p q, (render source first).run.value = .ok p ∧ (render source second).run.value = .ok q ∧
      (render source (first ++ second)).run.value = .ok (p.append q) := by
  obtain ⟨pieces, hpieces, hp⟩ := exists_render_of_plainStart hfirst
  obtain ⟨more, hmore, hq⟩ := exists_render_of_plainStart hsecond
  refine ⟨_, _, hp, hq, ?_⟩
  rw [value_render_of_plainStart source (plainStart_append hend hfirst hsecond),
    Text.lines_append hend, List.mapM_append, hpieces, hmore, ← ofPieces_append]
  rfl

/-! ### Documents of one line -/

theorem markerBody?_of_not_prefix {line : String} (h : ¬ settings.marker.toList <+: line.toList) :
    markerBody? settings line = none := by
  rw [markerBody?, Text.afterStart?_eq_none h, Option.map_none]

theorem markerBody?_append (settings : OutputSettings) (rest : String) :
    markerBody? settings (settings.marker ++ rest) = some (Text.trim rest) := by
  rw [markerBody?, Text.afterStart?_eq_some_iff.2 rfl, Option.map_some]

theorem value_render_of_line {document line : String} {x : Piece}
    (hplain : PlainStart source.settings document) (hline : Text.lines document = [line])
    (hx : pieceOf source (.builtin .auto) line = .ok x) (hids : (x.plugins.map (·.id)).Nodup) :
    (render source document).run.value = .ok ⟨x.text, 1, x.markers, x.plugins⟩ := by
  rw [value_render_of_plainStart source hplain, map_eq_ok_iff, hline]
  exact ⟨[x], mapM_cons_eq_ok_iff.2 ⟨x, [], hx, rfl, rfl⟩, ofPieces_singleton hids⟩

/-- A document of one line that is no marker. -/
theorem render_text {document line : String} (hline : Text.lines document = [line])
    (htext : ¬ source.settings.marker.toList <+: line.toList) :
    (render source document).run.value = .ok ⟨line ++ "\n", 1, 0, []⟩ := by
  have hbody := markerBody?_of_not_prefix htext
  have hplain : PlainStart source.settings document := by
    intro body hfirst
    rw [hline] at hfirst
    exact nomatch hbody.symm.trans hfirst
  exact value_render_of_line hplain hline (pieceOf_of_text hbody) .nil

/-- What it means that a filled document is the answer to one query: it shows the answer in the
format that follows the layout, or the placeholder where nothing matches, and has the plugins of
the answer. -/
structure ShowsAnswer (source : Source) (query : String) (p : Progress) : Prop where
  placeholder : source.collection.selected query = [] →
    p.text = source.settings.marker ++ " " ++ "no hosts matched!!" ++ "\n" ∧ p.plugins = []
  answer : source.collection.selected query ≠ [] →
    ∃ output left, (runQuery source.time query source.collection).fetch (.builtin .auto) =
      (.ok output, left) ∧ Text.EndedOnce output p.text ∧ p.plugins = left.plugins
  lines : p.lines = 1
  markers : p.markers = 1

/-- A document of one marker that names no templates is the answer to the query of the marker. -/
theorem render_marker {document rest query : String}
    (hline : Text.lines document = [source.settings.marker ++ rest])
    (hplain : PlainStart source.settings document)
    (hquery : Asks source.settings (Text.trim rest) query) :
    ∃ p, (render source document).run.value = .ok p ∧ ShowsAnswer source query p := by
  obtain rfl := asks_iff.1 hquery
  have hbody := markerBody?_append source.settings rest
  by_cases hselected : source.selected (Text.trim rest) = []
  · refine ⟨_, value_render_of_line hplain hline (pieceOf_of_nothing hbody hselected) .nil, ?_⟩
    exact ⟨fun _ => ⟨by rw [placeholder_eq], rfl⟩, fun h => absurd hselected h, rfl, rfl⟩
  · obtain ⟨output, houtput⟩ := exists_fetch_builtin source.time _ source.collection .auto
    have hx := markerText_of_fetch hselected houtput
    have hids := ((perm_plugins_markerText hx).map (·.id)).nodup_iff.2 (nodup_ids_runQuery ..)
    refine ⟨_, value_render_of_line hplain hline (pieceOf_of_marker hbody hx) hids, ?_⟩
    exact ⟨fun h => absurd h hselected,
      fun _ => ⟨output, _, Prod.ext houtput rfl, Text.endedOnce_dropFinalNewlines output, rfl⟩,
      rfl, rfl⟩

/-- Filling documents that do not begin with a header is compositional, and what it makes of a
single line is the line itself or the answer to the query that its marker asks. -/
theorem render_compositional (source : Source) :
    (∀ first second, (first = "" ∨ ∃ front, first = front ++ "\n") →
      PlainStart source.settings first → PlainStart source.settings second →
      ∃ p q, (render source first).run.value = .ok p ∧ (render source second).run.value = .ok q ∧
        (render source (first ++ second)).run.value = .ok (p.append q)) ∧
    (∀ document line, Text.lines document = [line] →
      ¬ source.settings.marker.toList <+: line.toList →
      (render source document).run.value = .ok ⟨line ++ "\n", 1, 0, []⟩) ∧
    ∀ document rest, Text.lines document = [source.settings.marker ++ rest] →
      PlainStart source.settings document →
      ∃ p, (render source document).run.value = .ok p ∧
        ("portscan".toList <:+: (Text.trim rest).toList →
          ShowsAnswer source source.settings.portscanQuery p) ∧
        (¬ "portscan".toList <:+: (Text.trim rest).toList →
          ShowsAnswer source (Text.trim rest) p) := by
  refine ⟨fun _ _ => render_append, fun _ _ => render_text, fun document rest hline hplain => ?_⟩
  obtain ⟨p, hp, hshown⟩ := render_marker hline hplain (asks_iff.2 rfl)
  refine ⟨p, hp, fun hports => ?_, fun hports => ?_⟩
  · rwa [markerQuery_of_mention hports] at hshown
  · rwa [markerQuery_of_no_mention hports] at hshown

/-- What the collection of one finding is written from with the default settings. -/
def telnetSource : Source :=
  ⟨"", telnetScan, Config.defaultOutput [], ⟨[], []⟩⟩

/-- A scan with an open port, found by a plugin that port overviews ask for. -/
def openPortScan : Collection :=
  telnetScan.addFinding "10.0.0.9" none "23/tcp" ⟨"11219", "SYN scanner", "0", "", none⟩

/-- What is written from it with the default settings. -/
def openPortSource : Source :=
  ⟨"", openPortScan, Config.defaultOutput [], ⟨[], []⟩⟩

/-- A heading, a marker that finds something, and a marker that mentions port overviews: it is the
answer to the query for them, although its body as a query would find nothing. -/
theorem render_telnet_document :
    telnetSource.collection.selected "port=23" ≠ [] ∧
      openPortScan.selected "open ports (portscan)" = [] ∧
      openPortScan.selected openPortSource.settings.portscanQuery ≠ [] ∧
      (∃ p q, (render telnetSource "Telnet:\n").run.value = .ok p ∧
        (render telnetSource "%%%NESSQ:port=23\n").run.value = .ok q ∧
        (render telnetSource ("Telnet:\n" ++ "%%%NESSQ:port=23\n")).run.value =
          .ok (p.append q)) ∧
      (render telnetSource "Telnet:\n").run.value = .ok ⟨"Telnet:" ++ "\n", 1, 0, []⟩ ∧
      (∃ p, (render telnetSource "%%%NESSQ:port=23\n").run.value = .ok p ∧
        ShowsAnswer telnetSource "port=23" p) ∧
      ∃ p, (render openPortSource "%%%NESSQ: open ports (portscan)\n").run.value = .ok p ∧
        ShowsAnswer openPortSource openPortSource.settings.portscanQuery p := by
  obtain ⟨happend, htext, hmarker⟩ := render_compositional telnetSource
  obtain ⟨-, -, hports⟩ := render_compositional openPortSource
  have hheading : PlainStart telnetSource.settings "Telnet:\n" :=
    headerFiles_eq_nil_iff.1 (by decide +kernel)
  have hplain : PlainStart telnetSource.settings "%%%NESSQ:port=23\n" :=
    headerFiles_eq_nil_iff.1 (by decide +kernel)
  have hplain' : PlainStart openPortSource.settings "%%%NESSQ: open ports (portscan)\n" :=
    headerFiles_eq_nil_iff.1 (by decide +kernel)
  have hbody : Text.trim "port=23" = "port=23" := by decide +kernel
  obtain ⟨p, hp, -, hanswer⟩ := hmarker "%%%NESSQ:port=23\n" "port=23" (by decide +kernel) hplain
  obtain ⟨q, hq, hoverview, -⟩ := hports "%%%NESSQ: open ports (portscan)\n"
    " open ports (portscan)" (by decide +kernel) hplain'
  refine ⟨by decide +kernel, by decide +kernel, by decide +kernel, ?_, ?_, ⟨p, hp, ?_⟩,
    q, hq, hoverview (by decide +kernel)⟩
  · exact happend "Telnet:\n" "%%%NESSQ:port=23\n" (.inr ⟨"Telnet:", rfl⟩) hheading hplain
  · exact htext "Telnet:\n" "Telnet:" (by decide +kernel) (by decide +kernel)
  · rw [hbody] at hanswer
    exact hanswer (by decide +kernel)

end Fill

end ScanQuery
