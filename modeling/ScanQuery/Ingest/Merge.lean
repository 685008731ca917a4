import ScanQuery.Config.Settings
import ScanQuery.HostName
import ScanQuery.Collection
import ScanQuery.Ingest.Document
import ScanQuery.Log.Logged

/-!
Merging documents into a collection. Every item adds its plugin to the list, unless its id is
known, and its finding to its host. Hosts of one name are one host, whichever documents they come
from. After each host element the name of the host is looked up in all its findings so far; a name
that is found replaces the one before.
-/

namespace ScanQuery.Ingest

/-- Numbers of host elements, of items and of plugins seen for the first time. -/
structure Stats where
  hosts : Nat
  items : Nat
  newPlugins : Nat
  deriving DecidableEq, Repr

/-- The numbers of nothing. -/
def Stats.zero : Stats :=
  ⟨0, 0, 0⟩

/-- The numbers of two documents together. -/
def Stats.add (a b : Stats) : Stats :=
  ⟨a.hosts + b.hosts, a.items + b.items, a.newPlugins + b.newPlugins⟩

namespace ItemElement

/-- The port-key of an item. -/
def portKey (i : ItemElement) : String :=
  Port.key i.port i.protocol

/-- The finding of an item. -/
def finding (i : ItemElement) : Finding :=
  ⟨i.pluginId, i.pluginName, i.severity, i.description.getD "", i.output⟩

end ItemElement

/-- The collection with an item of a host. -/
def addItem (ip : String) (c : Collection) (i : ItemElement) : Collection :=
  (c.registerPlugin i.pluginId i.pluginName i.severity).addFinding ip none i.portKey i.finding

/-- The collection with the items of a host; a host without items is added too. -/
def addItems (c : Collection) (e : HostElement) : Collection :=
  let c := e.items.foldl (addItem e.name) c
  c.setHost e.name (c.hostOrNew e.name)

/-- The host with the name that its findings tell, if they tell one. -/
def named (h : Host) : Host :=
  match HostName.resolve? h with
  | some name => { h with fqdn := some name }
  | none => h

/-- The collection with a host element. -/
def addHost (resolveNames : Bool) (c : Collection) (e : HostElement) : Collection :=
  let c := addItems c e
  if resolveNames then c.setHost e.name (named (c.hostOrNew e.name)) else c

/-- What adding a host element tells: whether its name was found. -/
def addHostEvents (resolveNames : Bool) (c : Collection) (e : HostElement) : List Log.Event :=
  if resolveNames then [HostName.event ((addItems c e).hostOrNew e.name)] else []

/-- The collection with a document. -/
def addDocument (resolveNames : Bool) (c : Collection) (d : Document) : Collection :=
  d.foldl (addHost resolveNames) c

/-- What adding a document tells. -/
def addDocumentEvents (resolveNames : Bool) (c : Collection) : Document → List Log.Event
  | [] => []
  | e :: rest =>
    addHostEvents resolveNames c e ++
      addDocumentEvents resolveNames (addHost resolveNames c e) rest

/-- What adding items counts: each of them, and those that come with a new plugin. -/
def itemStats (ip : String) (c : Collection) : List ItemElement → Stats
  | [] => .zero
  | i :: rest =>
    (Stats.mk 0 1 (if c.isNewPlugin i.pluginId then 1 else 0)).add
      (itemStats ip (addItem ip c i) rest)

/-- What adding a document counts: its items, and each host element behind its items. -/
def documentStats (resolveNames : Bool) (c : Collection) : Document → Stats
  | [] => .zero
  | e :: rest =>
    ((itemStats e.name c e.items).add ⟨1, 0, 0⟩).add
      (documentStats resolveNames (addHost resolveNames c e) rest)

/-- Adds the document written in a text. A text that is no document changes nothing. -/
def addText (settings : IngestSettings) (c : Collection) (text : String) :
    Log.Logged (Except Xml.Fault (Collection × Stats)) :=
  match parseDocument text with
  | .error fault => ⟨[], .error fault⟩
  | .ok d =>
    let names := settings.resolveNames
    ⟨addDocumentEvents names c d, .ok (addDocument names c d, documentStats names c d)⟩

end ScanQuery.Ingest
