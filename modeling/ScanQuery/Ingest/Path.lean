import ScanQuery.FileTree
import ScanQuery.Ingest.Merge

/-!
Reading reports from a file, or from every report below a directory. A file counts as a report
when its extension is the one that is set, in any ASCII case. The files of a directory are read in
the order of a walk by name, and the first one that fails ends the reading.

The walk itself never fails, since every directory of a tree can be listed. The error of a walk that
meets a directory that cannot be listed (`Failed to walk directory`) is therefore left out.
-/

namespace ScanQuery

/-- Why reports cannot be read. -/
inductive IngestError where
  | pathNotFound (path : String)
  | read (path : String) (cause : FileTree.Fault)
  | invalidDocument (path : String) (cause : Xml.Fault)
  deriving DecidableEq, Repr

namespace IngestError

/-- The error in words. -/
def message : IngestError → String
  | pathNotFound path => "Input path '" ++ path ++ "' does not exist"
  | read path cause => "Failed to read '" ++ path ++ "': " ++ cause.message
  | invalidDocument path cause => "Invalid Nessus XML in '" ++ path ++ "': " ++ cause.message

end IngestError

namespace Ingest

/-- A collection that is being filled, and the numbers of what it was filled with. -/
structure Progress where
  collection : Collection
  stats : Stats
  files : Nat

/-- The start: an empty collection. -/
def Progress.start : Progress :=
  ⟨.empty, .zero, 0⟩

/-- Adds the report that a file entry holds. -/
def addEntry (settings : IngestSettings) (p : Progress) (path : String)
    (content : Except FileTree.Fault String) : ExceptT IngestError Log.Logged Progress := do
  Log.Logged.log (.debug "Processing file" [("path", path)])
  match content with
  | .error cause =>
    Log.Logged.log (.error Log.Code.readFailure "Failed to read report" [("path", path)])
    throw (.read path cause)
  | .ok text =>
    match ← addText settings p.collection text with
    | .error cause =>
      Log.Logged.log (.error Log.Code.documentFailure "Failed to parse report"
        [("path", path), ("error", cause.message)])
      throw (.invalidDocument path cause)
    | .ok (c, stats) =>
      Log.Logged.log (.success Log.Code.reportParsed "Parsed report"
        [("path", path), ("hosts", toString stats.hosts), ("items", toString stats.items),
          ("new_plugins", toString stats.newPlugins)])
      return ⟨c, p.stats.add stats, p.files + 1⟩

/-- The text of an entry that is no directory. -/
def entryText : FileTree.Entry → Except FileTree.Fault String
  | .text content => .ok content
  | .binary => .error .notText
  | .directory => .error .isDirectory

/-- Whether a file name has the extension of a report. -/
def isReportName (extension name : String) : Bool :=
  match FileTree.extension? name with
  | some e => Text.equalIgnoringAsciiCase e extension
  | none => false

/-- The reports below a directory, each with its path, in the order in which they are read. -/
def reportsBelow (extension : String) (files : FileTree) (path : String) (place : List String) :
    List (String × FileTree.Entry) :=
  ((files.filesBelow place).filter fun (names, _) =>
    isReportName extension (names.getLast?.getD "")).map fun (names, e) =>
      (FileTree.joinPath path names, e)

/-- Reads the report, or all reports below the directory, under a path. -/
def readPath (settings : IngestSettings) (files : FileTree) (path : String) :
    ExceptT IngestError Log.Logged Collection := do
  match files.find path with
  | .error _ =>
    Log.Logged.log (.error Log.Code.pathNotFound "Input path does not exist" [("path", path)])
    throw (.pathNotFound path)
  | .ok (place, entry) =>
    let reports := match entry with
      | .directory => reportsBelow settings.extension files path place
      | e => [(path, e)]
    let p ← reports.foldlM (fun p (path, e) => addEntry settings p path (entryText e)) .start
    Log.Logged.log (.debug "Ingestion finished"
      [("files", toString p.files), ("hosts", toString p.collection.hosts.size),
        ("items", toString p.stats.items), ("plugins", toString p.collection.plugins.length)])
    return p.collection

end Ingest

end ScanQuery
