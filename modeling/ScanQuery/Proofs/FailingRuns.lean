import ScanQuery.Command.Outcome
import ScanQuery.Proofs.Fill.Writing

/-!
A run that fails leaves nothing behind. Every command is a row of steps that only tell events,
followed by steps that cannot fail; only the latter print and leave other files. So a failure, be it
of the settings, a report, a template or a marker in the middle of a document, comes before anything
that can be seen from outside.

Of the reading of reports nothing is used but that it tells events and answers (`quiet_ofLogged`
holds of every such computation), so no failure of it is told apart from another. One that trees do
not have, a directory that cannot be listed, would be as quiet.
-/

namespace ScanQuery

namespace Run

variable {α β ε : Type}

/-! ### Steps -/

/-- A step after which the output and the files are as they were, whether it fails or not. -/
def Quiet (x : Run α) : Prop :=
  ∀ e : Effects, (x.run e).2.output = e.output ∧ (x.run e).2.files = e.files

/-- A step that does not fail. -/
def Succeeds (x : Run α) : Prop :=
  ∀ e : Effects, ∃ a, (x.run e).1 = .ok a

/-- A step that, if it fails, leaves the output and the files as they were. -/
def FailsQuietly (x : Run α) : Prop :=
  ∀ (e : Effects) (cause : Failure), (x.run e).1 = .error cause →
    (x.run e).2.output = e.output ∧ (x.run e).2.files = e.files

theorem run_bind_of_ok {x : Run α} {e : Effects} {a : α} (h : (x.run e).1 = .ok a)
    (f : α → Run β) : (x >>= f).run e = (f a).run (x.run e).2 := by
  have hbind : (x >>= f).run e = (ExceptT.bindCont f (x.run e).1) (x.run e).2 := rfl
  rw [hbind, h]
  rfl

theorem run_bind_of_error {x : Run α} {e : Effects} {cause : Failure}
    (h : (x.run e).1 = .error cause) (f : α → Run β) :
    (x >>= f).run e = (.error cause, (x.run e).2) := by
  have hbind : (x >>= f).run e = (ExceptT.bindCont f (x.run e).1) (x.run e).2 := rfl
  rw [hbind, h]
  rfl

/-- A sequence that succeeds does so step by step. -/
theorem exists_of_run_bind {x : Run α} {f : α → Run β} {e : Effects} {b : β}
    (h : ((x >>= f).run e).1 = .ok b) :
    ∃ a, (x.run e).1 = .ok a ∧ (x >>= f).run e = (f a).run (x.run e).2 := by
  cases hresult : (x.run e).1 with
  | error cause =>
    rw [run_bind_of_error hresult] at h
    cases h
  | ok a => exact ⟨a, rfl, run_bind_of_ok hresult f⟩

theorem Quiet.bind {x : Run α} {f : α → Run β} (hx : Quiet x) (hf : ∀ a, Quiet (f a)) :
    Quiet (x >>= f) := by
  intro e
  obtain ⟨houtput, hfiles⟩ := hx e
  cases hresult : (x.run e).1 with
  | error cause =>
    rw [run_bind_of_error hresult]
    exact hx e
  | ok a =>
    rw [run_bind_of_ok hresult]
    obtain ⟨houtput', hfiles'⟩ := hf a (x.run e).2
    exact ⟨houtput'.trans houtput, hfiles'.trans hfiles⟩

theorem Succeeds.bind {x : Run α} {f : α → Run β} (hx : Succeeds x) (hf : ∀ a, Succeeds (f a)) :
    Succeeds (x >>= f) := by
  intro e
  obtain ⟨a, ha⟩ := hx e
  rw [run_bind_of_ok ha]
  exact hf a _

theorem Succeeds.failsQuietly {x : Run α} (hx : Succeeds x) : FailsQuietly x := by
  intro e cause herror
  obtain ⟨a, ha⟩ := hx e
  exact nomatch ha.symm.trans herror

/-- What comes before the last step that can fail must be quiet. -/
theorem FailsQuietly.bind {x : Run α} {f : α → Run β} (hx : Quiet x)
    (hf : ∀ a, FailsQuietly (f a)) : FailsQuietly (x >>= f) := by
  intro e cause herror
  obtain ⟨houtput, hfiles⟩ := hx e
  cases hresult : (x.run e).1 with
  | error cause' =>
    rw [run_bind_of_error hresult]
    exact hx e
  | ok a =>
    rw [run_bind_of_ok hresult] at herror ⊢
    obtain ⟨houtput', hfiles'⟩ := hf a (x.run e).2 cause herror
    exact ⟨houtput'.trans houtput, hfiles'.trans hfiles⟩

theorem quiet_pure (a : α) : Quiet (pure a) :=
  fun _ => ⟨rfl, rfl⟩

theorem quiet_get : Quiet (get : Run Effects) :=
  fun _ => ⟨rfl, rfl⟩

theorem quiet_tell (events : List Log.Event) : Quiet (tell events) :=
  fun _ => ⟨rfl, rfl⟩

theorem quiet_ofExcept (failure : ε → Failure) (x : Except ε α) : Quiet (ofExcept failure x) := by
  cases x <;> exact fun _ => ⟨rfl, rfl⟩

theorem quiet_ofLogged (failure : ε → Failure) (x : ExceptT ε Log.Logged α) :
    Quiet (ofLogged failure x) :=
  (quiet_tell _).bind fun _ => quiet_ofExcept failure _

/-- What a computation gives to a run is what it answers. -/
theorem value_of_run_ofLogged {failure : ε → Failure} {x : ExceptT ε Log.Logged α} {e : Effects}
    {a : α} (h : ((ofLogged failure x).run e).1 = .ok a) : x.run.value = .ok a := by
  have hrun : (ofLogged failure x).run e =
      (ofExcept failure x.run.value).run { e with events := e.events ++ x.run.events } := rfl
  rw [hrun] at h
  cases hvalue : x.run.value with
  | error cause =>
    rw [hvalue] at h
    cases h
  | ok a' =>
    rw [hvalue] at h
    cases h
    rfl

theorem succeeds_pure (a : α) : Succeeds (pure a) :=
  fun _ => ⟨a, rfl⟩

theorem succeeds_print (text : String) : Succeeds (print text) :=
  fun _ => ⟨(), rfl⟩

theorem succeeds_putFiles (files : FileTree) : Succeeds (putFiles files) :=
  fun _ => ⟨(), rfl⟩

end Run

/-! ### Commands -/

namespace Command

open Run

theorem quiet_loadRenderer (display : Display) : Quiet (loadRenderer display) := by
  cases display with
  | builtin format => exact quiet_pure _
  | template path =>
    exact quiet_get.bind fun _ => (quiet_ofExcept _ _).bind fun _ => quiet_pure _

theorem quiet_loadCollection (settings : IngestSettings) (input : String) :
    Quiet (loadCollection settings input) :=
  quiet_get.bind fun _ => (quiet_ofLogged _ _).bind fun _ => (quiet_tell _).bind fun _ =>
    quiet_pure _

theorem failsQuietly_printMatches (renderer : Renderer) (m : Matches) :
    FailsQuietly (printMatches renderer m) :=
  .bind (quiet_tell _) fun _ => .bind (quiet_ofExcept _ _) fun _ =>
    (succeeds_print _).failsQuietly

theorem succeeds_printLines (lines : List String) : Succeeds (printLines lines) :=
  succeeds_print _

/-- Every command does what may fail before it prints or leaves other files. -/
theorem failsQuietly_run (time : String) (config : Config) (command : Command) :
    FailsQuietly (command.run time config) := by
  cases command with
  | query input text display =>
    exact .bind (quiet_loadRenderer display) fun _ => .bind (quiet_loadCollection _ input) fun _ =>
      .bind (quiet_tell _) fun _ => failsQuietly_printMatches _ _
  | portscan input display =>
    exact .bind (quiet_loadRenderer display) fun _ => .bind (quiet_loadCollection _ input) fun _ =>
      .bind (quiet_tell _) fun _ => failsQuietly_printMatches _ _
  | write input template output =>
    refine .bind (quiet_loadCollection _ input) fun _ => .bind quiet_get fun _ =>
      .bind (quiet_ofLogged _ _) fun written => Succeeds.failsQuietly ?_
    refine (succeeds_putFiles _).bind fun _ => ?_
    split_ifs
    · exact succeeds_printLines _
    · exact succeeds_pure _
  | list input =>
    exact .bind (quiet_loadCollection _ input) fun _ => (succeeds_printLines _).failsQuietly
  | version => exact (succeeds_printLines _).failsQuietly

theorem value_of_run_loadCollection {settings : IngestSettings} {input : String} {e : Effects}
    {c : Collection} (h : ((loadCollection settings input).run e).1 = .ok c) :
    (Ingest.readPath settings e.files input).run.value = .ok c := by
  rw [loadCollection] at h
  obtain ⟨_, ⟨⟩, hload⟩ := exists_of_run_bind h
  rw [hload] at h
  obtain ⟨c', hc', hrest⟩ := exists_of_run_bind h
  rw [hrest] at h
  obtain rfl : c' = c := Except.ok.inj h
  exact value_of_run_ofLogged hc'

/-- The files after a write are those that writing gave. -/
theorem written_of_run_write {time : String} {config : Config} {input template output : String}
    {e : Effects} (h : (((write input template output).run time config).run e).1 = .ok ()) :
    ∃ c outcome, (Ingest.readPath config.ingest e.files input).run.value = .ok c ∧
      (Fill.write ⟨time, c, config.output, e.files⟩ template output).run.value =
        .ok (outcome, (((write input template output).run time config).run e).2.files) := by
  have hfiles := (quiet_loadCollection config.ingest input e).2
  rw [run] at h ⊢
  obtain ⟨c, hc, hload⟩ := exists_of_run_bind h
  rw [hload] at h ⊢
  obtain ⟨_, ⟨⟩, hget⟩ := exists_of_run_bind h
  rw [hget] at h ⊢
  obtain ⟨⟨outcome, files⟩, hwritten, hlast⟩ := exists_of_run_bind h
  rw [hlast] at h ⊢
  obtain ⟨⟨⟩, -, hput⟩ := exists_of_run_bind h
  rw [hput]
  refine ⟨c, outcome, value_of_run_loadCollection hc, ?_⟩
  have hvalue := value_of_run_ofLogged hwritten
  rw [hfiles] at hvalue
  -- what is printed behind it leaves the files alone
  split_ifs <;> exact hvalue

end Command

namespace Outcome

/-- The start of a run: the log is set up. -/
def start (files : FileTree) : Effects :=
  ⟨[started], "", files⟩

variable {time : String} {config : Config} {files : FileTree} {command : Command}

theorem ofCommand_of_ok (h : ((command.run time config).run (start files)).1 = .ok ()) :
    ofCommand time config files command =
      ⟨.completed, config.logging, ((command.run time config).run (start files)).2⟩ := by
  have hrun : (command.run time config).run ⟨[started], "", files⟩ =
      (.ok (), ((command.run time config).run (start files)).2) := Prod.ext h rfl
  rw [ofCommand, hrun]

theorem ofCommand_of_error {cause : Failure}
    (h : ((command.run time config).run (start files)).1 = .error cause) :
    (ofCommand time config files command).ending = .failed cause ∧
      (ofCommand time config files command).effects.output = "" ∧
      (ofCommand time config files command).effects.files = files := by
  have hrun : (command.run time config).run ⟨[started], "", files⟩ =
      (.error cause, ((command.run time config).run (start files)).2) := Prod.ext h rfl
  rw [ofCommand, hrun]
  exact ⟨rfl, Command.failsQuietly_run time config command (start files) cause h⟩

/-- A failing run prints nothing and changes no file. -/
theorem quiet_of_exitCode_ne_zero {env : Environment} {arguments : List String} {request : Request}
    (h : Request.parse arguments = .ok request)
    (hexit : (ofArguments time env files arguments).exitCode ≠ 0) :
    (ofArguments time env files arguments).effects.output = "" ∧
      (ofArguments time env files arguments).effects.files = files := by
  simp only [ofArguments, h] at hexit ⊢
  cases request with
  | version => exact absurd rfl hexit
  | run i =>
    simp only at hexit ⊢
    cases hload : i.loadConfig env files with
    | error cause => exact ⟨rfl, rfl⟩
    | ok config =>
      simp only [hload] at hexit
      cases hresult : ((i.command.run time config).run (start files)).1 with
      | error cause => exact (ofCommand_of_error hresult).2
      | ok _ =>
        rw [ofCommand_of_ok hresult] at hexit
        exact absurd rfl hexit

/-- A write that completes leaves the filled text of the document. -/
theorem written_of_exitCode_eq_zero {env : Environment} {arguments : List String} {i : Invocation}
    {input template output : String} (h : Request.parse arguments = .ok (.run i))
    (hwrite : i.command = .write input template output)
    (hexit : (ofArguments time env files arguments).exitCode = 0) :
    ∃ config c document p, i.loadConfig env files = .ok config ∧
      (Ingest.readPath config.ingest files input).run.value = .ok c ∧
      files.read template = .ok document ∧
      (Fill.render ⟨time, c, config.output, files⟩ document).run.value = .ok p ∧
      Fill.Written ⟨time, c, config.output, files⟩ output p
        (ofArguments time env files arguments).effects.files := by
  simp only [ofArguments, h] at hexit ⊢
  cases hload : i.loadConfig env files with
  | error cause => simp [hload, printed, exitCode] at hexit
  | ok config =>
    simp only [hload] at hexit ⊢
    cases hresult : ((i.command.run time config).run (start files)).1 with
    | error cause => simp [exitCode, (ofCommand_of_error hresult).1] at hexit
    | ok _ =>
      rw [ofCommand_of_ok hresult]
      rw [hwrite] at hresult ⊢
      obtain ⟨c, outcome, hinput, hvalue⟩ := Command.written_of_run_write hresult
      obtain ⟨document, p, hread, hp, hwritten⟩ :=
        (Fill.writesFilled _ template output).written outcome _ hvalue
      exact ⟨config, c, document, p, rfl, hinput, hread, hp, hwritten⟩

/-- Nothing is printed and no file changes in a run that fails, unless it fails in writing the
filled document. The document is written last: when all of it is filled, and then as a whole. -/
theorem leaves_nothing_on_failure (time : String) (env : Environment) (files : FileTree)
    (arguments : List String) (request : Request) (h : Request.parse arguments = .ok request) :
    ((ofArguments time env files arguments).exitCode ≠ 0 →
      (ofArguments time env files arguments).effects.output = "" ∧
        ((∀ path cause, (ofArguments time env files arguments).ending ≠
            .failed (.write (.writeOutput path cause))) →
          (ofArguments time env files arguments).effects.files = files)) ∧
    (∀ source template output, Fill.WritesFilled source template output) ∧
    ∀ i input template output, request = .run i → i.command = .write input template output →
      (ofArguments time env files arguments).exitCode = 0 →
        ∃ config c document p, i.loadConfig env files = .ok config ∧
          (Ingest.readPath config.ingest files input).run.value = .ok c ∧
          files.read template = .ok document ∧
          (Fill.render ⟨time, c, config.output, files⟩ document).run.value = .ok p ∧
          Fill.Written ⟨time, c, config.output, files⟩ output p
            (ofArguments time env files arguments).effects.files := by
  refine ⟨fun hexit => ?_, Fill.writesFilled, fun i input template output hrun hwrite hexit => ?_⟩
  · obtain ⟨houtput, hfiles⟩ := quiet_of_exitCode_ne_zero h hexit
    exact ⟨houtput, fun _ => hfiles⟩
  · exact written_of_exitCode_eq_zero (hrun ▸ h) hwrite hexit

/-- A report, a template that asks for a field that there is not, a document that is shown by it,
and one that is shown as usual. -/
def reportFiles : FileTree where
  base := ["home"]
  entries :=
    [(["home", "scan.nessus"], .text ("<r><Report><ReportHost name=\"10.0.0.9\">" ++
        "<ReportItem port=\"23\" pluginID=\"10281\"/></ReportHost></Report></r>")),
      (["home", "broken.txt"], .text "\x7b\x7b nothing.here \x7d\x7d"),
      (["home", "broken.md"],
        .text "%%%NESSQ:list=broken.txt,table=broken.txt\n# Ports\n%%%NESSQ:port=23\n"),
      (["home", "ports.md"], .text "# Ports\n%%%NESSQ:port=23\n"),
      (["home", "out.md"], .text "as it was")]

/-- The arguments that have a document written. -/
def writeArguments (template : String) : List String :=
  ["write", "--input", "scan.nessus", "--template", template, "--output", "out.md"]

/-- The second line is filled when the marker on the third fails, and nothing is left of it. The
other document is written. -/
theorem broken_marker_leaves_nothing :
    (ofArguments "" [] reportFiles (writeArguments "broken.md")).exitCode = 1 ∧
      (ofArguments "" [] reportFiles (writeArguments "broken.md")).effects.output = "" ∧
      (ofArguments "" [] reportFiles (writeArguments "broken.md")).effects.files = reportFiles ∧
      ∃ (source : Fill.Source) (p : Fill.Progress),
        (Fill.render source "# Ports\n%%%NESSQ:port=23\n").run.value = .ok p ∧
          (ofArguments "" [] reportFiles (writeArguments "ports.md")).effects.files.read "out.md" =
            .ok p.text := by
  have hending : (ofArguments "" [] reportFiles (writeArguments "broken.md")).ending =
      .failed (.write (.render "port=23" (.template "broken.txt" .undefinedValue))) := by
    decide +kernel
  have hexit : (ofArguments "" [] reportFiles (writeArguments "broken.md")).exitCode = 1 := by
    rw [exitCode, hending]
  have hcompleted : (ofArguments "" [] reportFiles (writeArguments "ports.md")).exitCode = 0 := by
    decide +kernel
  obtain ⟨hfailing, -, -⟩ := leaves_nothing_on_failure "" [] reportFiles
    (writeArguments "broken.md")
    (.run ⟨none, none, false, .write "scan.nessus" "broken.md" "out.md"⟩) (by decide +kernel)
  obtain ⟨houtput, hfiles⟩ := hfailing (by simp [hexit])
  obtain ⟨-, -, hwritten⟩ := leaves_nothing_on_failure "" [] reportFiles
    (writeArguments "ports.md")
    (.run ⟨none, none, false, .write "scan.nessus" "ports.md" "out.md"⟩) (by decide +kernel)
  obtain ⟨_, _, document, p, -, -, hread, hp, hwritten⟩ := hwritten _ _ _ _ rfl rfl hcompleted
  have hdocument : reportFiles.read "ports.md" = .ok "# Ports\n%%%NESSQ:port=23\n" := by
    decide +kernel
  obtain rfl := Except.ok.inj (hread.symm.trans hdocument)
  exact ⟨hexit, houtput, hfiles (by simp [hending]), _, p, hp, hwritten.holds⟩

end Outcome

end ScanQuery
