import ScanQuery.Proofs.Fill.Composition

/-!
Showing an answer: fetched as a text, put on a writer, or as a port overview. Each of them asks for
itself whether the answer is empty, and says so in its own way. Where something is selected they all
show what fetching gives, so they fail together, and then only where the renderer or the writer
does: an answer that is not empty has hosts, and a result with hosts has a layout. Built-in formats
never fail, and neither does filling a document with them, whatever its markers say.
-/

namespace ScanQuery

/-! ### Writers -/

section Writers

variable {σ : Type} {w : Writer σ}

/-- Whether no write and no flush ever fails. -/
def Writer.NeverFails (w : Writer σ) : Prop :=
  ∀ s, (∀ text, (w.write text s).1 = .ok ()) ∧ (w.flush s).1 = .ok ()

/-- What showing an outcome on a writer answers: a text is put on it, and after a failure nothing is
written. -/
def Writer.receive (w : Writer σ) (outcome : Except OutputError String) (s : σ) :
    Except OutputError Unit × σ :=
  match outcome with
  | .ok text => w.put text s
  | .error cause => (.error cause, s)

/-- Putting a text on a writer fails as the write does, or the flush behind it. -/
theorem Writer.put_fst (w : Writer σ) (text : String) (s : σ) :
    (w.put text s).1 =
      ((w.write text s).1 >>= fun _ => (w.flush (w.write text s).2).1).mapError .sink := by
  unfold Writer.put
  rcases w.write text s with ⟨_ | _, _⟩ <;> rfl

theorem Writer.NeverFails.put (h : w.NeverFails) (text : String) (s : σ) :
    (w.put text s).1 = .ok () := by
  rw [Writer.put_fst, (h s).1 text, (h (w.write text s).2).2]
  rfl

theorem Writer.put_ne_layout (w : Writer σ) (text : String) (s : σ) (cause : LayoutError) :
    (w.put text s).1 ≠ .error (.layout cause) := by
  rw [Writer.put_fst]
  rcases (w.write text s).1 >>= fun _ => (w.flush (w.write text s).2).1 with _ | _
  · exact nofun
  · exact nofun

theorem neverFails_working : Sink.working.writer.NeverFails :=
  fun _ => ⟨fun _ => rfl, rfl⟩

end Writers

/-! ### Answers without and with findings -/

section Answers

variable {σ : Type} {c : Collection} (time : String) {text : String} {settings : OutputSettings}
  (renderer : Renderer)

theorem portscan_of_nothing (h : c.selected settings.portscanQuery = []) :
    portscan time settings c renderer = .ok settings.placeholder :=
  if_pos ((isEmpty_runQuery_iff time settings.portscanQuery c).2 h)

theorem portscan_of_something (h : c.selected settings.portscanQuery ≠ []) :
    portscan time settings c renderer =
      ((runQuery time settings.portscanQuery c).fetch renderer).1 := by
  rw [fetch_of_something time _ c h renderer]
  exact if_neg ((isEmpty_runQuery_iff time settings.portscanQuery c).not.2 h)

theorem printTo_of_nothing (h : c.selected text = []) (w : Writer σ) (s : σ) :
    ((runQuery time text c).printTo renderer w s).1 = (.ok (), s) := by
  rw [Matches.printTo, if_pos ((isEmpty_runQuery_iff time text c).2 h)]

/-- Printing puts on a writer what fetching gives. -/
theorem printTo_of_something (h : c.selected text ≠ []) (w : Writer σ) (s : σ) :
    ((runQuery time text c).printTo renderer w s).1 =
      w.receive ((runQuery time text c).fetch renderer).1 s := by
  rw [fetch_of_something time _ c h renderer, Matches.printTo,
    if_neg ((isEmpty_runQuery_iff time text c).not.2 h)]
  rcases renderer.render (runQuery time text c) with ⟨_ | _, _⟩ <;> rfl

/-- What printing leaves on a sink that takes everything is what fetching gives. -/
theorem print_working_of_something (h : c.selected text ≠ []) :
    ((runQuery time text c).print renderer .working).1 =
      ((runQuery time text c).fetch renderer).1 := by
  have hprint := printTo_of_something time renderer h Sink.working.writer ""
  rw [Matches.print]
  cases hprinted : (runQuery time text c).printTo renderer Sink.working.writer "" with
  | mk outcome left =>
    rw [hprinted] at hprint
    obtain rfl : outcome = _ := hprint
    cases ((runQuery time text c).fetch renderer).1 with
    | error cause => rfl
    | ok output => exact congrArg Except.ok (String.empty_append ..)

/-! ### No failure for want of a layout -/

theorem fetch_ne_layout (c : Collection) (text : String) (cause : LayoutError) :
    ((runQuery time text c).fetch renderer).1 ≠ .error (.layout cause) := by
  by_cases h : c.selected text = []
  · rw [fetch_of_nothing time text c h renderer]
    exact nofun
  · rw [fetch_of_something time _ c h renderer]
    exact render_ne_layout (values_runQuery_ne_nil time text c h) renderer cause

theorem portscan_ne_layout (settings : OutputSettings) (c : Collection) (cause : LayoutError) :
    portscan time settings c renderer ≠ .error (.layout cause) := by
  by_cases h : c.selected settings.portscanQuery = []
  · rw [portscan_of_nothing time renderer h]
    exact nofun
  · rw [portscan_of_something time renderer h]
    exact fetch_ne_layout time renderer c settings.portscanQuery cause

theorem printTo_ne_layout (c : Collection) (text : String) (w : Writer σ) (s : σ)
    (cause : LayoutError) :
    ((runQuery time text c).printTo renderer w s).1.1 ≠ .error (.layout cause) := by
  by_cases h : c.selected text = []
  · rw [printTo_of_nothing time renderer h]
    exact nofun
  · have hfetch := fetch_ne_layout time renderer c text cause
    rw [printTo_of_something time renderer h]
    -- the failures of a writer are of another kind, and the others are those of fetching
    cases houtcome : ((runQuery time text c).fetch renderer).1 with
    | ok output => exact w.put_ne_layout output s cause
    | error other =>
      rw [houtcome] at hfetch
      exact fun herror => hfetch (congrArg Except.error (Except.error.inj herror))

/-! ### Built-in formats -/

theorem exists_portscan_ok (settings : OutputSettings) (c : Collection) (f : Format) :
    ∃ output, portscan time settings c (.builtin f) = .ok output := by
  by_cases h : c.selected settings.portscanQuery = []
  · exact ⟨_, portscan_of_nothing time (.builtin f) h⟩
  · rw [portscan_of_something time (.builtin f) h]
    exact exists_fetch_builtin time settings.portscanQuery c f

theorem printTo_ok (c : Collection) (text : String) (f : Format) {w : Writer σ}
    (hw : w.NeverFails) (s : σ) :
    ((runQuery time text c).printTo (.builtin f) w s).1.1 = .ok () := by
  by_cases h : c.selected text = []
  · rw [printTo_of_nothing time (.builtin f) h]
  · obtain ⟨output, houtput⟩ := exists_fetch_builtin time text c f
    rw [printTo_of_something time (.builtin f) h, houtput]
    exact hw.put output s

theorem Fill.exists_render_ok {source : Fill.Source} {document : String}
    (hplain : Fill.PlainStart source.settings document) :
    ∃ p, (Fill.render source document).run.value = .ok p := by
  obtain ⟨pieces, -, hp⟩ := Fill.exists_render_of_plainStart hplain
  exact ⟨_, hp⟩

end Answers

/-- Built-in formats never fail, no way of showing an answer fails for want of a layout, and a
document that does not begin with a header is filled whatever its markers say. -/
theorem builtin_output_never_fails (time text : String) (settings : OutputSettings)
    (c : Collection) (f : Format) :
    (∃ output, ((runQuery time text c).fetch (.builtin f)).1 = .ok output) ∧
    (∃ output, portscan time settings c (.builtin f) = .ok output) ∧
    (∀ {σ : Type} (w : Writer σ) (s : σ), w.NeverFails →
      ((runQuery time text c).printTo (.builtin f) w s).1.1 = .ok ()) ∧
    (∀ (renderer : Renderer) (cause : LayoutError),
      ((runQuery time text c).fetch renderer).1 ≠ .error (.layout cause) ∧
      portscan time settings c renderer ≠ .error (.layout cause) ∧
      ∀ {σ : Type} (w : Writer σ) (s : σ),
        ((runQuery time text c).printTo renderer w s).1.1 ≠ .error (.layout cause)) ∧
    ∀ files document, Fill.PlainStart settings document →
      ∃ p, (Fill.render ⟨time, c, settings, files⟩ document).run.value = .ok p := by
  refine ⟨exists_fetch_builtin time text c f, exists_portscan_ok time settings c f,
    fun w s hw => printTo_ok time c text f hw s, ?_,
    fun files document hplain => Fill.exists_render_ok hplain⟩
  intro renderer cause
  exact ⟨fetch_ne_layout time renderer c text cause,
    portscan_ne_layout time renderer settings c cause,
    fun w s => printTo_ne_layout time renderer c text w s cause⟩

/-- A document of markers that make no sense: no clause, no port, a template behind the first line,
and a quote that is not closed. -/
def oddDocument : String :=
  "%%%NESSQ:\n%%%NESSQ:port=,, or\n%%%NESSQ:list=a.j2\n%%%NESSQ:desc=\"and not"

/-- Such markers fail nowhere. -/
theorem builtin_output_oddDocument :
    Sink.working.writer.NeverFails ∧ Fill.PlainStart Fill.telnetSource.settings oddDocument ∧
      ((runQuery "" "port=23" telnetScan).printTo (.builtin .json) Sink.working.writer "").1.1 =
        .ok () ∧
      ∃ p, (Fill.render Fill.telnetSource oddDocument).run.value = .ok p := by
  have hplain : Fill.PlainStart Fill.telnetSource.settings oddDocument :=
    Fill.headerFiles_eq_nil_iff.1 (by decide +kernel)
  obtain ⟨-, -, hprint, -, hfill⟩ :=
    builtin_output_never_fails "" "port=23" Fill.telnetSource.settings telnetScan .json
  exact ⟨neverFails_working, hplain, hprint Sink.working.writer "" neverFails_working,
    hfill ⟨[], []⟩ oddDocument hplain⟩

end ScanQuery
