import ScanQuery.Config.Settings
import ScanQuery.Output.Renderer

/-!
Showing results: as a text, on a sink such as standard output, and in the shortcut for port
overviews. A result without hosts is not rendered. As a text it is a placeholder; on a sink it
leaves nothing but a warning.
-/

namespace ScanQuery

namespace Matches

/-- The text of a result or the placeholder of the default marker, and the result as it is left. -/
def fetch (m : Matches) (renderer : Renderer) : Except OutputError String × Matches :=
  if m.isEmpty then (.ok (placeholderOf defaultMarker), m) else renderer.render m

/-- What fetching tells. -/
def fetchEvents (m : Matches) (renderer : Renderer) : List Log.Event :=
  if m.isEmpty then [] else renderer.renderEvents m

end Matches

/-- Something that text is written to, by what a write and a flush answer and the state that they
leave it in. What was written before a failure stays written. -/
structure Writer (σ : Type) where
  write : String → σ → Except String Unit × σ
  flush : σ → Except String Unit × σ

/-- What putting a text on a writer answers: it is written as a whole and nothing is held back. -/
def Writer.put {σ : Type} (w : Writer σ) (text : String) (s : σ) : Except OutputError Unit × σ :=
  match w.write text s with
  | (.error cause, s) => (.error (.sink cause), s)
  | (.ok (), s) => ((w.flush s).1.mapError .sink, (w.flush s).2)

/-- Where text is written: a sink that takes everything, or one on which every write fails. -/
inductive Sink where
  | working
  | broken (cause : String)
  deriving DecidableEq, Repr

/-- A sink as a writer whose state is the text that it has taken; an empty text needs no write. -/
def Sink.writer : Sink → Writer String
  | working => ⟨fun text taken => (.ok (), taken ++ text), fun taken => (.ok (), taken)⟩
  | broken cause =>
    ⟨fun text taken => (if text.isEmpty then .ok () else .error cause, taken),
      fun taken => (.ok (), taken)⟩

namespace Matches

/-- What printing a result on a writer answers, with the state that the writer is left in, and the
result as it is left. -/
def printTo {σ : Type} (m : Matches) (renderer : Renderer) (w : Writer σ) (s : σ) :
    (Except OutputError Unit × σ) × Matches :=
  if m.isEmpty then ((.ok (), s), m)
  else
    match renderer.render m with
    | (.ok text, m) => (w.put text s, m)
    | (.error cause, m) => ((.error cause, s), m)

/-- The text that printing a result leaves on a sink, and the result as it is left. -/
def print (m : Matches) (renderer : Renderer) (sink : Sink) :
    Except OutputError String × Matches :=
  let ((answer, taken), m) := m.printTo renderer sink.writer ""
  (answer.map fun () => taken, m)

/-- What printing tells. -/
def printEvents (m : Matches) (renderer : Renderer) : List Log.Event :=
  if m.isEmpty then
    [.warningWithCode Log.Code.noMatchedHosts "No hosts matched the query"
      [("query", m.header.query)]]
  else renderer.renderEvents m

end Matches

/-! ### Port overviews -/

/-- The result of the port overview. -/
def portscanMatches (time : String) (settings : OutputSettings) (c : Collection) : Matches :=
  runQuery time settings.portscanQuery c

/-- What running the port overview tells. -/
def portscanMatchesEvents (time : String) (settings : OutputSettings) (c : Collection) :
    List Log.Event :=
  runQueryEvents time settings.portscanQuery c

/-- The text of the port overview, or the placeholder of the user's marker. -/
def portscan (time : String) (settings : OutputSettings) (c : Collection) (renderer : Renderer) :
    Except OutputError String :=
  let m := portscanMatches time settings c
  if m.isEmpty then .ok settings.placeholder else (renderer.render m).1

/-- What the port overview tells. -/
def portscanEvents (time : String) (settings : OutputSettings) (c : Collection)
    (renderer : Renderer) : List Log.Event :=
  let m := portscanMatches time settings c
  portscanMatchesEvents time settings c ++ if m.isEmpty then [] else renderer.renderEvents m

end ScanQuery
