import ScanQuery.Command.Outcome
import ScanQuery.Proofs.FileTree
import ScanQuery.Proofs.Text.Trim

/-!
Settings in layers. A setting is given on the command line, in the settings file, by a variable of
the environment or by a default that is built in, and the first of these that gives it decides.
The layers are asked for every setting on its own, so a section of the file that sets one of them
leaves the others to the environment. A variable whose text makes no sense is as good as absent.
-/

namespace ScanQuery

/-! ### Levels by their names -/

namespace Log.Level

/-- The user's text names the level. -/
def Named (text : String) (level : Level) : Prop :=
  Text.asciiLower (Text.trim text) = level.name ∨
    level = warning ∧ Text.asciiLower (Text.trim text) = "warn"

theorem ofName?_name (level : Level) : ofName? level.name = some level := by
  cases level <;> decide

theorem name_of_ofName? {text : String} {level : Level} (h : ofName? text = some level) :
    level.name = text := by
  simpa using List.find?_some h

theorem parse?_eq_some_iff {text : String} {level : Level} :
    parse? text = some level ↔ Named text level := by
  simp only [parse?, Named]
  generalize Text.asciiLower (Text.trim text) = folded
  constructor
  · intro h
    split at h
    · next hwarn => exact .inr ⟨(Option.some.inj h).symm, hwarn⟩
    · exact .inl (name_of_ofName? h).symm
  · rintro (rfl | ⟨rfl, rfl⟩)
    · have hname : level.name ≠ "warn" := by cases level <;> decide
      rw [if_neg hname, ofName?_name]
    · rfl

theorem isSome_parse? {text : String} : (parse? text).isSome ↔ ∃ level, Named text level := by
  simp only [Option.isSome_iff_exists, parse?_eq_some_iff]

instance (text : String) : Decidable (∃ level, Named text level) :=
  decidable_of_iff _ isSome_parse?

end Log.Level

/-! ### Variables of the environment -/

/-- The variables that give settings. -/
inductive Variable where
  | logLevel
  | structuredLogs
  | fileExtension
  | resolveNames
  | markerPrefix
  deriving DecidableEq, Repr

namespace Variable

/-- The name in the environment. -/
def name : Variable → String
  | logLevel => "NESSQ_LOG_LEVEL"
  | structuredLogs => "NESSQ_STRUCTURED_LOGS"
  | fileExtension => "NESSQ_FILE_EXTENSION"
  | resolveNames => "NESSQ_RESOLVE_HOSTNAMES"
  | markerPrefix => "NESSQ_MARKER_PREFIX"

theorem name_injective : Function.Injective name := by
  intro v w
  cases v <;> cases w <;> decide

/-- The texts that make sense for a variable. Blanks make a marker, but no extension. -/
def Accepts : Variable → String → Prop
  | logLevel, text => ∃ level, Log.Level.Named text level
  | structuredLogs, text => text = "true" ∨ text = "false"
  | fileExtension, text => Text.trim text ≠ ""
  | resolveNames, text => text = "true" ∨ text = "false"
  | markerPrefix, text => text ≠ ""

instance : (v : Variable) → (text : String) → Decidable (v.Accepts text)
  | logLevel, text => inferInstanceAs (Decidable (∃ level, Log.Level.Named text level))
  | structuredLogs, text => inferInstanceAs (Decidable (text = "true" ∨ text = "false"))
  | fileExtension, text => inferInstanceAs (Decidable (Text.trim text ≠ ""))
  | resolveNames, text => inferInstanceAs (Decidable (text = "true" ∨ text = "false"))
  | markerPrefix, text => inferInstanceAs (Decidable (text ≠ ""))

end Variable

namespace Environment

/-- The text of a variable, as far as it is there and makes sense. -/
def accepted (env : Environment) (v : Variable) : Option String :=
  (env.lookup v.name).filter (v.Accepts ·)

/-- The environment without a variable. -/
def without (env : Environment) (v : Variable) : Environment :=
  env.filter (·.1 ≠ v.name)

theorem lookup_without (env : Environment) (v w : Variable) :
    (env.without v).lookup w.name = if w = v then none else env.lookup w.name := by
  simp only [without, lookup_filter_ne, Variable.name_injective.eq_iff]

/-- A text that makes no sense is as good as no variable. -/
theorem accepted_without {env : Environment} {v : Variable} {text : String}
    (hlookup : env.lookup v.name = some text) (h : ¬ v.Accepts text) (w : Variable) :
    (env.without v).accepted w = env.accepted w := by
  by_cases hw : w = v
  · subst hw
    rw [accepted, accepted, lookup_without, if_pos rfl, hlookup]
    simp [Option.filter, h]
  · rw [accepted, accepted, lookup_without, if_neg hw]

/-- The level that the environment asks for. -/
def level? (env : Environment) : Option Log.Level :=
  (env.accepted .logLevel).bind Log.Level.parse?

/-- The truth value that a variable spells. -/
def truth? (env : Environment) (v : Variable) : Option Bool :=
  (env.accepted v).map (· == "true")

theorem lookup_logLevel (env : Environment) :
    (env.lookup "NESSQ_LOG_LEVEL").bind Log.Level.parse? = env.level? := by
  simp only [level?, accepted, Variable.name]
  cases env.lookup "NESSQ_LOG_LEVEL" with
  | none => rfl
  | some text =>
    by_cases h : Variable.logLevel.Accepts text
    · simp [Option.filter, h]
    · have hnone : Log.Level.parse? text = none := by
        rw [← Option.not_isSome_iff_eq_none, Log.Level.isSome_parse?]
        exact h
      simp [Option.filter, h, hnone]

theorem readBool?_eq (text : String) :
    readBool? text = ((some text).filter fun t => t = "true" ∨ t = "false").map (· == "true") := by
  unfold readBool?
  split_ifs with htrue hfalse
  · simp [htrue]
  · simp [hfalse]
  · simp [Option.filter, htrue, hfalse]

/-- The two variables with a truth value are read alike. -/
theorem lookup_truth (env : Environment) {v : Variable}
    (hv : ∀ text, v.Accepts text ↔ text = "true" ∨ text = "false") :
    (env.lookup v.name).bind readBool? = env.truth? v := by
  simp only [truth?, accepted]
  cases env.lookup v.name with
  | none => rfl
  | some text => simp only [Option.bind_some, readBool?_eq, hv]

theorem lookup_fileExtension (env : Environment) :
    (env.lookup "NESSQ_FILE_EXTENSION").filter (!Text.isBlankText ·) =
      env.accepted .fileExtension := by
  refine congrArg (Option.filter · _) (funext fun text => ?_)
  rw [Bool.eq_iff_iff, Bool.not_eq_true', Bool.eq_false_iff, ne_eq, Text.isBlankText_iff,
    decide_eq_true_eq]
  rfl

theorem lookup_markerPrefix (env : Environment) :
    (env.lookup "NESSQ_MARKER_PREFIX").filter (!·.isEmpty) = env.accepted .markerPrefix := by
  refine congrArg (Option.filter · _) (funext fun text => ?_)
  rw [Bool.eq_iff_iff, Bool.not_eq_true', Bool.eq_false_iff, ne_eq, String.isEmpty_iff,
    decide_eq_true_eq]
  rfl

end Environment

/-! ### Layers -/

/-- What the layers say about a setting, the layer that counts most first. -/
structure Layers (α : Type) where
  flag : Option α
  file : Option α
  environment : Option α
  builtin : α

/-- The word of the first layer that says anything. -/
def Layers.value {α : Type} : Layers α → α
  | ⟨some a, _, _, _⟩ => a
  | ⟨none, some a, _, _⟩ => a
  | ⟨none, none, some a, _⟩ => a
  | ⟨none, none, none, a⟩ => a

theorem Layers.value_eq {α : Type} (flag file environment : Option α) (builtin : α) :
    value ⟨flag, file, environment, builtin⟩ =
      flag.getD (file.getD (environment.getD builtin)) := by
  cases flag <;> cases file <;> cases environment <;> rfl

namespace Config

/-- A file that sets nothing. -/
def Overrides.nothing : Overrides :=
  ⟨none, none, none, none, none, none, none⟩

/-- What the settings file under a path sets, and nothing when none is given. -/
inductive FileSets (files : FileTree) : Option String → Overrides → Prop
  | absent : FileSets files none .nothing
  | given {path text : String} {o : Overrides} (hread : files.read path = .ok text)
      (hparse : Overrides.parse text = .ok o) : FileSets files (some path) o

/-- Settings that the program can work with. -/
structure Usable (c : Config) : Prop where
  marker : Text.trim c.output.marker ≠ ""
  portscanQuery : Text.trim c.output.portscanQuery ≠ ""
  extension : Text.trim c.ingest.extension ≠ ""
  bare : (Text.trim c.ingest.extension).toList.head? ≠ some '.'

theorem isNotBare_iff {extension : String} :
    isNotBare extension = true ↔ Text.trim extension = "" ∨
      (Text.trim extension).toList.head? = some '.' := by
  rw [← String.toList_eq_nil_iff, Text.toList_trim]
  simp [isNotBare]

theorem validate_eq_ok_iff {c c' : Config} : validate c = .ok c' ↔ c' = c ∧ c.Usable := by
  unfold validate
  split_ifs with hmarker hquery hextension
  · rw [Text.isBlankText_iff] at hmarker
    exact ⟨fun h => (nomatch h), fun h => absurd hmarker h.2.marker⟩
  · rw [Text.isBlankText_iff] at hquery
    exact ⟨fun h => (nomatch h), fun h => absurd hquery h.2.portscanQuery⟩
  · rw [isNotBare_iff] at hextension
    exact ⟨fun h => (nomatch h), fun h => (hextension.elim h.2.extension h.2.bare).elim⟩
  · rw [Text.isBlankText_iff] at hmarker hquery
    rw [isNotBare_iff, not_or] at hextension
    exact ⟨fun h => ⟨(Except.ok.inj h).symm, hmarker, hquery, hextension.1, hextension.2⟩,
      fun h => congrArg Except.ok h.1.symm⟩

/-- The settings without a file and a command line. -/
theorem default_eq (env : Environment) :
    default env =
      ⟨⟨env.level?.getD .info, (env.truth? .structuredLogs).getD false⟩,
        ⟨(env.accepted .fileExtension).getD "nessus", (env.truth? .resolveNames).getD true⟩,
        ⟨(env.accepted .markerPrefix).getD defaultMarker, defaultPortscanQuery, .medium⟩⟩ := by
  have hstructured := env.lookup_truth (v := .structuredLogs) fun _ => Iff.rfl
  have hresolve := env.lookup_truth (v := .resolveNames) fun _ => Iff.rfl
  simp only [default, defaultLogging, defaultIngest, defaultOutput, env.lookup_logLevel,
    env.lookup_fileExtension, env.lookup_markerPrefix, ← hstructured, ← hresolve, Variable.name]

/-- A variable whose text makes no sense does not change the settings. -/
theorem default_without {env : Environment} {v : Variable} {text : String}
    (hlookup : env.lookup v.name = some text) (h : ¬ v.Accepts text) :
    default (env.without v) = default env := by
  simp only [default_eq, Environment.level?, Environment.truth?,
    Environment.accepted_without hlookup h]

/-- Settings are loaded when the file, if there is one, can be read and what it makes of the
defaults is usable. -/
theorem load_eq_ok_iff {env : Environment} {files : FileTree} {path : Option String}
    {c : Config} : load env files path = .ok c ↔
      ∃ o, FileSets files path o ∧ c = o.apply (default env) ∧ c.Usable := by
  cases path with
  | none =>
    rw [load, validate_eq_ok_iff]
    constructor
    · rintro ⟨rfl, husable⟩
      exact ⟨.nothing, .absent, rfl, husable⟩
    · rintro ⟨_, ⟨⟩, rfl, husable⟩
      exact ⟨rfl, husable⟩
  | some path =>
    constructor
    · intro h
      simp only [load, parse] at h
      split at h
      · cases h
      · next text hread =>
        split at h
        · next o hparse =>
          obtain ⟨rfl, husable⟩ := validate_eq_ok_iff.1 h
          exact ⟨o, .given hread hparse, rfl, husable⟩
        · cases h
    · rintro ⟨o, hsets, rfl, husable⟩
      cases hsets with
      | given hread hparse =>
        simp only [load, parse, hread, hparse]
        exact validate_eq_ok_iff.2 ⟨rfl, husable⟩

end Config

namespace Invocation

/-- The settings of a run, layer by layer. Only logging is set on the command line, and the query
and the lowest level of the coverage report have no variable. -/
def layered (i : Invocation) (o : Config.Overrides) (env : Environment) : Config where
  logging.threshold := Layers.value
    ⟨i.logLevel.bind Log.Level.parse?, o.threshold, env.level?, .info⟩
  logging.structured := Layers.value
    ⟨if i.jsonLogs then some true else none, o.structured, env.truth? .structuredLogs, false⟩
  ingest.extension := Layers.value ⟨none, o.extension, env.accepted .fileExtension, "nessus"⟩
  ingest.resolveNames := Layers.value ⟨none, o.resolveNames, env.truth? .resolveNames, true⟩
  output.marker := Layers.value ⟨none, o.marker, env.accepted .markerPrefix, defaultMarker⟩
  output.portscanQuery := Layers.value ⟨none, o.portscanQuery, none, defaultPortscanQuery⟩
  output.unmatchedMinimum := Layers.value ⟨none, o.unmatchedMinimum, none, .medium⟩

/-- The level on the command line, if there is one, has a name that there is. -/
def NamesLevel (i : Invocation) : Prop :=
  ∀ text ∈ i.logLevel, ∃ level, Log.Level.Named text level

theorem overrideLogging_eq_ok_iff {i : Invocation} {settings settings' : LogSettings} :
    i.overrideLogging settings = .ok settings' ↔ i.NamesLevel ∧
      settings' = ⟨(i.logLevel.bind Log.Level.parse?).getD settings.threshold,
        settings.structured || i.jsonLogs⟩ := by
  unfold overrideLogging NamesLevel
  cases i.logLevel with
  | none => simp [bind, Except.bind, pure, Except.pure, eq_comm]
  | some text =>
    simp only [Option.mem_some_iff, forall_eq', ← Log.Level.isSome_parse?]
    cases hparse : Log.Level.parse? text with
    | none => simp [bind, Except.bind, throw, throwThe, MonadExceptOf.throw]
    | some level => simp [hparse, bind, Except.bind, pure, Except.pure, eq_comm]

theorem loadConfig_eq_ok_iff {i : Invocation} {env : Environment} {files : FileTree}
    {c : Config} : i.loadConfig env files = .ok c ↔ ∃ loaded logging,
      Config.load env files i.config = .ok loaded ∧
        i.overrideLogging loaded.logging = .ok logging ∧
          c = { loaded with logging := logging } := by
  unfold loadConfig
  cases Config.load env files i.config with
  | error cause => simp [bind, Except.bind]
  | ok loaded =>
    cases hlogging : i.overrideLogging loaded.logging with
    | error cause => simp [bind, Except.bind, hlogging]
    | ok logging => simp [bind, Except.bind, pure, Except.pure, hlogging, eq_comm]

/-- What the command line makes of settings that the file has changed is what the layers say. -/
theorem layered_eq (i : Invocation) (o : Config.Overrides) (env : Environment) :
    i.layered o env = { o.apply (Config.default env) with
      logging := ⟨(i.logLevel.bind Log.Level.parse?).getD
        (o.apply (Config.default env)).logging.threshold,
        (o.apply (Config.default env)).logging.structured || i.jsonLogs⟩ } := by
  simp only [layered, Layers.value_eq, Config.Overrides.apply, Config.default_eq]
  cases i.jsonLogs <;> simp

/-- The command line, the settings file, the environment and the defaults decide in this order, for
every setting on its own, and a run has settings exactly when the file can be read, the settings
are usable and the level on the command line is one. A variable that makes no sense counts for
nothing. -/
theorem loadConfig_layered (i : Invocation) (env : Environment) (files : FileTree) :
    (∀ c, i.loadConfig env files = .ok c ↔
      ∃ o, Config.FileSets files i.config o ∧ i.NamesLevel ∧ c = i.layered o env ∧ c.Usable) ∧
    ∀ (v : Variable) (text : String), env.lookup v.name = some text → ¬ v.Accepts text →
      i.loadConfig (env.without v) files = i.loadConfig env files := by
  constructor
  · intro c
    rw [loadConfig_eq_ok_iff]
    constructor
    · rintro ⟨loaded, logging, hload, hlogging, rfl⟩
      obtain ⟨o, hsets, rfl, husable⟩ := Config.load_eq_ok_iff.1 hload
      obtain ⟨hnames, rfl⟩ := overrideLogging_eq_ok_iff.1 hlogging
      exact ⟨o, hsets, hnames, (i.layered_eq o env).symm, { husable with }⟩
    · rintro ⟨o, hsets, hnames, rfl, husable⟩
      rw [layered_eq] at husable ⊢
      exact ⟨_, _, Config.load_eq_ok_iff.2 ⟨o, hsets, rfl, { husable with }⟩,
        overrideLogging_eq_ok_iff.2 ⟨hnames, rfl⟩, rfl⟩
  · intro v text hlookup h
    simp only [loadConfig, Config.load, Config.parse, Config.default_without hlookup h]

/-- A directory with a settings file that sets one thing. -/
def quietFiles : FileTree :=
  ⟨["home"], [(["home", "nessq.toml"], .text "[logging]\nmin_log_level = \"error\"\n")]⟩

/-- An environment with a level that is none. -/
def loudEnvironment : Environment :=
  [("NESSQ_LOG_LEVEL", "loud"), ("NESSQ_FILE_EXTENSION", "xml")]

/-- A run that logs in JSON. -/
def jsonRun : Invocation :=
  ⟨some "nessq.toml", none, true, .version⟩

/-- The level comes from the file, the flag makes the log structured, the variable sets the
extension, and the rest are defaults. -/
theorem loadConfig_jsonRun :
    jsonRun.loadConfig loudEnvironment quietFiles =
      .ok ⟨⟨.error, true⟩, ⟨"xml", true⟩, ⟨defaultMarker, defaultPortscanQuery, .medium⟩⟩ ∧
    jsonRun.loadConfig (loudEnvironment.without .logLevel) quietFiles =
      jsonRun.loadConfig loudEnvironment quietFiles := by
  have hread : quietFiles.read "nessq.toml" = .ok "[logging]\nmin_log_level = \"error\"\n" := by
    decide +kernel
  have hparse : Config.Overrides.parse "[logging]\nmin_log_level = \"error\"\n" =
      .ok ⟨some .error, none, none, none, none, none, none⟩ := by
    decide +kernel
  have hlayers : ⟨⟨.error, true⟩, ⟨"xml", true⟩, ⟨defaultMarker, defaultPortscanQuery, .medium⟩⟩ =
      jsonRun.layered ⟨some .error, none, none, none, none, none, none⟩ loudEnvironment := by
    decide +kernel
  have husable : Config.Usable ⟨⟨.error, true⟩, ⟨"xml", true⟩,
      ⟨defaultMarker, defaultPortscanQuery, .medium⟩⟩ := by
    constructor <;> decide +kernel
  exact ⟨((loadConfig_layered _ _ _).1 _).2
    ⟨_, .given hread hparse, fun _ h => (nomatch h), hlayers, husable⟩,
    (loadConfig_layered _ _ _).2 .logLevel "loud" rfl (by decide +kernel)⟩

end Invocation

end ScanQuery
