import ScanQuery.Command.Request
import ScanQuery.Config.Load
import ScanQuery.Fill
import ScanQuery.Ingest.Path

/-!
Running commands. A command acts on what a run has done so far: the events it told, what it printed
and the files as it leaves them. What was done before a failure stays done, so it can be said, and
proved, that a command does everything that may fail before it prints or writes anything.
-/

namespace ScanQuery

/-- Why a command fails. -/
inductive Failure where
  | ingest (cause : IngestError)
  | output (cause : OutputError)
  | write (cause : Fill.Error)
  deriving DecidableEq, Repr

namespace Failure

/-- The failure in words. -/
def message : Failure → String
  | ingest cause => "Ingestion error: " ++ cause.message
  | output cause => "Output error: " ++ cause.message
  | write cause => "Write error: " ++ cause.message

/-- The code of the event that tells of a failure. -/
def code : Failure → Log.Code
  | ingest (.pathNotFound _) => Log.Code.pathNotFound
  | ingest (.invalidDocument _ _) => Log.Code.documentFailure
  | ingest (.read _ _) => Log.Code.readFailure
  | output (.templateNotFound _) => Log.Code.templateFailure
  | output (.templateRead _ _) => Log.Code.templateFailure
  | output (.template _ _) => Log.Code.templateFailure
  | output _ => Log.Code.renderFailure
  | write .missingList => Log.Code.templateFailure
  | write .missingTable => Log.Code.templateFailure
  | write (.customTemplate _) => Log.Code.templateFailure
  | write _ => Log.Code.writeFailure

/-- The event that tells of a failure. -/
def event (f : Failure) : Log.Event :=
  .error f.code f.message []

end Failure

/-- What a run has done. -/
structure Effects where
  events : List Log.Event
  output : String
  files : FileTree
  deriving DecidableEq

/-- A step of a run. -/
abbrev Run := ExceptT Failure (StateM Effects)

namespace Run

/-- Tells some events. -/
def tell (events : List Log.Event) : Run Unit :=
  modify fun e => { e with events := e.events ++ events }

/-- Prints a text. -/
def print (text : String) : Run Unit :=
  modify fun e => { e with output := e.output ++ text }

/-- Leaves other files. -/
def putFiles (files : FileTree) : Run Unit :=
  modify fun e => { e with files := files }

/-- Goes on with what a computation gives, or fails as it does. -/
def ofExcept {ε α : Type} (failure : ε → Failure) : Except ε α → Run α
  | .ok a => pure a
  | .error cause => throw (failure cause)

/-- Tells the events of a computation and goes on as `ofExcept` does. -/
def ofLogged {ε α : Type} (failure : ε → Failure) (x : ExceptT ε Log.Logged α) : Run α := do
  tell x.run.events
  ofExcept failure x.run.value

end Run

namespace Command

open Run

/-- The reports under a path. -/
def loadCollection (settings : IngestSettings) (input : String) : Run Collection := do
  let c ← ofLogged .ingest (Ingest.readPath settings (← get).files input)
  tell [.info "Reports loaded" [("input", input), ("hosts", toString c.hosts.size),
    ("plugins", toString c.plugins.length)]]
  return c

/-- What makes a text from the result. -/
def loadRenderer : Display → Run Renderer
  | .builtin format => return .builtin format
  | .template path => do
    return .custom (← ofExcept .output (CustomTemplate.loadSingle (← get).files path))

/-- Prints a result. -/
def printMatches (renderer : Renderer) (m : Matches) : Run Unit := do
  tell (m.printEvents renderer)
  print (← ofExcept .output (m.print renderer .working).1)

/-- Prints lines. -/
def printLines (lines : List String) : Run Unit :=
  print (Report.text lines)

/-- What the program is called, and its version. -/
def versionLine : String := "nessq 0.1.0"

/-- Does what a command asks for at a moment under some settings. -/
def run (time : String) (config : Config) : Command → Run Unit
  | query input text display => do
    let renderer ← loadRenderer display
    let c ← loadCollection config.ingest input
    tell (runQueryEvents time text c)
    printMatches renderer (runQuery time text c)
  | portscan input display => do
    let renderer ← loadRenderer display
    let c ← loadCollection config.ingest input
    tell (portscanMatchesEvents time config.output c)
    printMatches renderer (portscanMatches time config.output c)
  | write input template output => do
    let c ← loadCollection config.ingest input
    let source : Fill.Source := ⟨time, c, config.output, (← get).files⟩
    let (outcome, files) ← ofLogged .write (Fill.write source template output)
    putFiles files
    if !outcome.unmatched.isEmpty then
      printLines ("Unmatched plugins:" :: outcome.unmatched.map Plugin.line)
  | list input => do
    let c ← loadCollection config.ingest input
    printLines (c.listPlugins.map Plugin.line)
  | version => printLines [versionLine]

end Command

end ScanQuery
