import ScanQuery.Command.Outcome
import Std.Time

/-!
The program: gathers the arguments, the variables, the files that the arguments lead to and the
time, lets `Outcome.ofArguments` decide what is done, and does it.
-/

namespace ScanQuery.Program

/-- The variables that settings are taken from. -/
def variableNames : List String :=
  ["NESSQ_LOG_LEVEL", "NESSQ_STRUCTURED_LOGS", "NESSQ_FILE_EXTENSION",
    "NESSQ_RESOLVE_HOSTNAMES", "NESSQ_MARKER_PREFIX"]

/-- The variables that are set. -/
def environment : IO Environment :=
  variableNames.filterMapM fun name => do return (← IO.getEnv name).map fun value => (name, value)

/-- The present moment on the local clock. -/
def localTime : IO String := do
  try return (← Std.Time.DateTime.now).format "uuuu-MM-dd HH:mm:ss"
  catch _ => return (← Std.Time.PlainDateTime.now).format "uuuu-MM-dd HH:mm:ss"

/-- The seconds since the start of 1970. -/
def secondsNow : IO Nat := do
  return (← Std.Time.Timestamp.now).toSecondsSinceUnixEpoch.val.toNat

/-! ### Files -/

/-- What stands under a path. The content of a file that is not wanted is left alone. -/
def entryAt (path : String) (wanted : Bool) : IO (Option FileTree.Entry) := do
  try
    let found ← IO.FS.realPath path
    if ← found.isDir then return some .directory
    else if !(← found.pathExists) then return none
    else if !wanted then return some .binary
    else
      match String.fromUTF8? (← IO.FS.readBinFile found) with
      | some text => return some (.text text)
      | none => return some .binary
  catch _ => return none

/-- The tree with everything below a directory; links are not followed. -/
partial def addBelow (wanted : String → Bool) (path : String) (place : List String)
    (tree : FileTree) : IO FileTree := do
  let mut tree := tree
  for entry in ← (← IO.FS.realPath path).readDir do
    let below := place ++ [entry.fileName]
    match (← entry.path.symlinkMetadata).type with
    | .dir => tree ← addBelow wanted entry.path.toString below (tree.put below .directory)
    | .file =>
      if let some e ← entryAt entry.path.toString (wanted entry.fileName) then
        tree := tree.put below e
    | _ => pure ()
  return tree

/-- The tree with what stands under a path and on the way there. -/
def addPath (tree : FileTree) (path : String) : IO FileTree := do
  let mut tree := tree
  let mut place := tree.start path
  let mut here := if place.isEmpty then "/" else "."
  for name in FileTree.names path do
    if name ≠ "" ∧ name ≠ "." then
      here := here ++ "/" ++ name
      place := if name = ".." then place.dropLast else place ++ [name]
      match ← entryAt here true with
      | some e => tree := tree.put place e
      | none => return tree
  return tree

/-- The tree with what stands under a path, on the way there and below it. -/
def addInput (wanted : String → Bool) (tree : FileTree) (path : String) : IO FileTree := do
  let tree ← addPath tree path
  match tree.find path with
  | .ok (place, .directory) => addBelow wanted path place tree
  | _ => return tree

/-- The tree with the files that a command looks at under some settings. -/
def addCommand (config : Config) (tree : FileTree) : Command → IO FileTree
  | .query input _ display => do addInput wanted (← addDisplay display) input
  | .portscan input display => do addInput wanted (← addDisplay display) input
  | .write input template output => do
    let tree ← addPath (← addPath (← addInput wanted tree input) template) output
    match tree.read template with
    | .ok document => (Fill.headerFiles config.output document).foldlM addPath tree
    | .error _ => return tree
  | .list input => addInput wanted tree input
  | .version => return tree
where
  wanted (name : String) : Bool := Ingest.isReportName config.ingest.extension name
  addDisplay : Display → IO FileTree
    | .template path => addPath tree path
    | .builtin _ => return tree

/-- The files that the arguments lead to. -/
def filesFor (env : Environment) (arguments : List String) : IO FileTree := do
  let base := (FileTree.names (← IO.currentDir).toString).filter (· ≠ "")
  let tree : FileTree := ⟨base, []⟩
  match Request.parse arguments with
  | .ok (.run invocation) =>
    let tree ← invocation.config.toList.foldlM addPath tree
    match invocation.loadConfig env tree with
    | .ok config => addCommand config tree invocation.command
    | .error _ => return tree
  | _ => return tree

/-- Writes the files that a run leaves changed. -/
def writeBack (before after : FileTree) : IO Unit :=
  for (place, content) in before.newTexts after do
    IO.FS.writeFile ("/" ++ "/".intercalate place) content

end ScanQuery.Program

open ScanQuery ScanQuery.Program in
/-- Runs the program. -/
def main (arguments : List String) : IO UInt32 := do
  let env ← environment
  let files ← filesFor env arguments
  let outcome := Outcome.ofArguments (← localTime) env files arguments
  writeBack files outcome.effects.files
  IO.print outcome.effects.output
  let seconds ← secondsNow
  for line in outcome.errorLines seconds do
    IO.eprintln line
  return outcome.exitCode.toUInt32
