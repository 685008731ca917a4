import ScanQuery.Proofs.Outputs

/-!
Port overviews. The query for them is run from four places: its answer can be fetched or printed
like any other, there is a shortcut that does both steps, and a marker of a document asks for it by
name. Where something is selected all of them show the same text or fail alike, a document with one
line feed behind it. Where nothing is selected the shortcut and the document show the placeholder
of the user's marker, fetching shows that of the default marker, and printing shows nothing.
-/

namespace ScanQuery

/-- The answer to the query for port overviews. -/
def Fill.Source.overview (source : Fill.Source) : Matches :=
  runQuery source.time source.settings.portscanQuery source.collection

/-- The document that asks for a port overview and nothing else. -/
def Fill.Source.overviewDocument (source : Fill.Source) : String :=
  source.settings.marker ++ "portscan"

/-- What it means that a port overview is shown in the same way as a text, on writers, on its own
and in a filled document. -/
structure OverviewAgrees (source : Fill.Source) (renderer : Renderer) (p : Fill.Progress) :
    Prop where
  portscan_eq : portscan source.time source.settings source.collection renderer =
    (source.overview.fetch renderer).1
  printTo_eq : ∀ {σ : Type} (w : Writer σ) (s : σ), (source.overview.printTo renderer w s).1 =
    w.receive (source.overview.fetch renderer).1 s
  print_eq : (source.overview.print renderer .working).1 = (source.overview.fetch renderer).1
  filled : ∃ output, (source.overview.fetch (.builtin .auto)).1 = .ok output ∧
    Text.EndedOnce output p.text

/-- What it means that an empty port overview is shown by the placeholders, and not on writers. A
placeholder is a marker with a message behind a space. -/
structure OverviewEmpty (source : Fill.Source) (renderer : Renderer) (p : Fill.Progress) :
    Prop where
  portscan_eq : portscan source.time source.settings source.collection renderer =
    .ok (source.settings.marker ++ " " ++ "no hosts matched!!")
  fetch_eq : (source.overview.fetch renderer).1 = .ok (defaultMarker ++ " " ++ "no hosts matched!!")
  printTo_eq : ∀ {σ : Type} (w : Writer σ) (s : σ),
    (source.overview.printTo renderer w s).1 = (.ok (), s)
  filled : p.text = source.settings.marker ++ " " ++ "no hosts matched!!" ++ "\n"

namespace Fill

variable {source : Source}

theorem lines_overviewDocument (h : '\n' ∉ source.settings.marker.toList) :
    Text.lines source.overviewDocument = [source.settings.marker ++ "portscan"] := by
  refine Text.lines_eq_singleton ?_ ?_
  · rw [Source.overviewDocument, Ne, String.append_eq_empty_iff]
    exact fun hnone => absurd hnone.2 (by decide)
  · rw [Source.overviewDocument, String.toList_append, List.mem_append, not_or]
    exact ⟨h, by decide⟩

theorem plainStart_overviewDocument (h : '\n' ∉ source.settings.marker.toList) :
    PlainStart source.settings source.overviewDocument := by
  intro body hfirst
  rw [lines_overviewDocument h, List.head?_cons, Option.bind_some, markerBody?_append,
    Option.some.injEq] at hfirst
  rw [← hfirst]
  exact headerPaths_eq_none_iff.1 (by decide +kernel)

theorem exists_render_overviewDocument (h : '\n' ∉ source.settings.marker.toList) :
    ∃ p, (render source source.overviewDocument).run.value = .ok p ∧
      ShowsAnswer source source.settings.portscanQuery p := by
  exact render_marker (lines_overviewDocument h) (plainStart_overviewDocument h)
    (.inl ⟨by decide +kernel, rfl⟩)

end Fill

/-- The ways of showing a port overview agree with each other, whether something is found or not and
whatever it is shown with. -/
theorem overview_paths_agree (source : Fill.Source) (renderer : Renderer)
    (hmarker : '\n' ∉ source.settings.marker.toList) :
    ∃ p, (Fill.render source source.overviewDocument).run.value = .ok p ∧
      (source.collection.selected source.settings.portscanQuery ≠ [] →
        OverviewAgrees source renderer p) ∧
      (source.collection.selected source.settings.portscanQuery = [] →
        OverviewEmpty source renderer p) := by
  obtain ⟨p, hp, hshown⟩ := Fill.exists_render_overviewDocument hmarker
  refine ⟨p, hp, fun hsome => ?_, fun hnone => ?_⟩
  · obtain ⟨output, left, hfetch, hended, -⟩ := hshown.answer hsome
    exact {
      portscan_eq := portscan_of_something source.time renderer hsome
      printTo_eq := printTo_of_something source.time renderer hsome
      print_eq := print_working_of_something source.time renderer hsome
      filled := ⟨output, congrArg Prod.fst hfetch, hended⟩ }
  · exact {
      portscan_eq := by
        rw [portscan_of_nothing source.time renderer hnone, Fill.placeholder_eq]
      fetch_eq := fetch_of_nothing source.time _ source.collection hnone renderer
      printTo_eq := printTo_of_nothing source.time renderer hnone
      filled := (hshown.placeholder hnone).1 }

/-- A port overview that a template cannot show, and one that is empty. -/
theorem overview_paths_brokenTemplate :
    '\n' ∉ Fill.openPortSource.settings.marker.toList ∧
      Fill.openPortScan.selected Fill.openPortSource.settings.portscanQuery ≠ [] ∧
      (Fill.openPortSource.overview.fetch brokenTemplate).1.toOption = none ∧
      telnetScan.selected Fill.telnetSource.settings.portscanQuery = [] ∧
      (∃ p,
        (Fill.render Fill.openPortSource Fill.openPortSource.overviewDocument).run.value = .ok p ∧
          OverviewAgrees Fill.openPortSource brokenTemplate p) ∧
      ∃ p, (Fill.render Fill.telnetSource Fill.telnetSource.overviewDocument).run.value = .ok p ∧
        OverviewEmpty Fill.telnetSource brokenTemplate p := by
  have hmarker : '\n' ∉ Fill.openPortSource.settings.marker.toList := by decide +kernel
  have hsome : Fill.openPortScan.selected Fill.openPortSource.settings.portscanQuery ≠ [] := by
    decide +kernel
  have hnone : telnetScan.selected Fill.telnetSource.settings.portscanQuery = [] := by
    decide +kernel
  obtain ⟨p, hp, hagrees, -⟩ := overview_paths_agree Fill.openPortSource brokenTemplate hmarker
  obtain ⟨q, hq, -, hempty⟩ := overview_paths_agree Fill.telnetSource brokenTemplate hmarker
  exact ⟨hmarker, hsome, by decide +kernel, hnone, ⟨p, hp, hagrees hsome⟩, q, hq, hempty hnone⟩

end ScanQuery
