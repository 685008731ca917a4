import ScanQuery.Command.Arguments
import ScanQuery.Command.Run
import ScanQuery.Log.Service

/-!
Whole runs of the program, from the arguments to the exit code. Settings are loaded before anything
is logged, so a complaint about them is written plainly; all that comes later is told by events,
written as the settings say.
-/

namespace ScanQuery

/-- How a run ends. -/
inductive Ending where
  | completed
  | misused (why : UsageError)
  | misconfigured (why : ConfigError)
  | failed (why : Failure)
  deriving DecidableEq, Repr

/-- A run that is over: how it ended, how its log is written, and what it did. -/
structure Outcome where
  ending : Ending
  logging : LogSettings
  effects : Effects
  deriving DecidableEq

namespace Invocation

/-- The log settings with what the command line overrides. -/
def overrideLogging (i : Invocation) (settings : LogSettings) :
    Except ConfigError LogSettings := do
  let threshold ← match i.logLevel with
    | none => pure settings.threshold
    | some text =>
      match Log.Level.parse? text with
      | some level => pure level
      | none => throw (.invalid "--log-level" (.unknownLevel text))
  return ⟨threshold, settings.structured || i.jsonLogs⟩

/-- The settings of a run: those of the environment, of the file and of the command line. -/
def loadConfig (i : Invocation) (env : Environment) (files : FileTree) :
    Except ConfigError Config := do
  let config ← Config.load env files i.config
  return { config with logging := ← i.overrideLogging config.logging }

end Invocation

namespace Outcome

/-- The event at the start of every log. -/
def started : Log.Event :=
  .success Log.Code.loggingStarted "Global logging system initialized" []

/-- The run of a command under settings. -/
def ofCommand (time : String) (config : Config) (files : FileTree) (command : Command) :
    Outcome :=
  match (command.run time config).run ⟨[started], "", files⟩ with
  | (.ok (), effects) => ⟨.completed, config.logging, effects⟩
  | (.error why, effects) =>
    ⟨.failed why, config.logging, { effects with events := effects.events ++ [why.event] }⟩

/-- A run that did nothing but print. -/
def printed (env : Environment) (files : FileTree) (ending : Ending) (output : String) : Outcome :=
  ⟨ending, Config.defaultLogging env, ⟨[], output, files⟩⟩

/-- The run of the program at a moment, in an environment, among files and with arguments. -/
def ofArguments (time : String) (env : Environment) (files : FileTree)
    (arguments : List String) : Outcome :=
  match Request.parse arguments with
  | .error why => printed env files (.misused why) ""
  | .ok .version => printed env files .completed (Report.text [Command.versionLine])
  | .ok (.run invocation) =>
    match invocation.loadConfig env files with
    | .error why => printed env files (.misconfigured why) ""
    | .ok config => ofCommand time config files invocation.command

/-- The exit code. -/
def exitCode (o : Outcome) : Nat :=
  match o.ending with
  | .completed => 0
  | .misused _ => 2
  | .misconfigured _ => 1
  | .failed _ => 1

/-- The written form of an event that happened `seconds` after the start of 1970. -/
def logLine (settings : LogSettings) (seconds : Nat) (e : Log.Event) : String :=
  if settings.structured then (e.toJson seconds).compact else e.format

/-- The events that the log admits. -/
def loggedEvents (o : Outcome) : List Log.Event :=
  Log.Service.admitted o.logging.threshold o.effects.events

/-- What is written beside the output: a complaint, or the events that the log admits. -/
def errorLines (o : Outcome) (seconds : Nat) : List String :=
  match o.ending with
  | .misused why => ["error: " ++ why.message]
  | .misconfigured why => ["Error: " ++ why.message]
  | _ => o.loggedEvents.map (logLine o.logging seconds)

end Outcome

end ScanQuery
