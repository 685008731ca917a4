import ScanQuery.Xml.Namespace

/-!
Scan reports as documents. The root holds reports, a report holds hosts, a host holds items, and
an item has a description and may have an output. Other elements and attributes are passed over,
and text between elements is. The elements of one kind in one parent are a list: once it has
begun, text next to its elements, or one of them behind an element of another kind, is an error.
What an attribute says may also be said by an element whose name is the attribute's behind an `@`.
A description or an output is left out when its element or its item is marked as nil.
-/

namespace ScanQuery.Ingest

/-- What a report says of one finding. -/
structure ItemElement where
  port : String
  protocol : String
  severity : String
  pluginId : String
  pluginName : String
  description : Option String
  output : Option String
  deriving DecidableEq, Repr

/-- What a report says of a host. -/
structure HostElement where
  name : String
  items : List ItemElement
  deriving DecidableEq, Repr

/-- The hosts of a document, report by report. -/
abbrev Document := List HostElement

open Xml (Attribute Bindings Fault Node)

/-- An element's name, the inside of its tag and its children. -/
structure Element where
  name : List Char
  attributes : List Char
  children : List Node

/-- Whether a name, its namespace apart, is the given one. -/
def isCalled (wanted : String) (name : List Char) : Bool :=
  Xml.localName name = wanted.toList

/-- The namespaces that a node's tag declares are checked. -/
def checkTag : Node → Except Fault Unit
  | .text _ => .ok ()
  | .element _ attributes _ => do let _ ← Xml.declared attributes

/-- What is inside an element that is passed over is looked at only so far: text at its beginning
must be decodable, and the tags next to the first one must declare their namespaces properly. -/
def passInside : List Node → Except Fault Unit
  | [] => .ok ()
  | .text run :: rest => do
    let _ ← Xml.runText run
    (rest.take 1).forM checkTag
  | .element name attributes children :: rest => do
    checkTag (.element name attributes children)
    (children.take 1).forM checkTag
    (rest.take 1).forM checkTag

/-- An element is passed over. -/
def passOver (attributes : List Char) (children : List Node) : Except Fault Unit := do
  let _ ← Xml.declared attributes
  passInside children

/-- The nodes behind a list hold no more of its elements. -/
def passRest (wanted : String) : List Node → Except Fault Unit
  | [] => .ok ()
  | .text run :: rest => do
    let _ ← Xml.runText run
    passRest wanted rest
  | .element name attributes children :: rest => do
    if isCalled wanted name then .error .repeatedField
    else
      passOver attributes children
      passRest wanted rest

/-- The elements of a list that has begun with an element of the given full name, checked up to
the end of its parent. -/
def listRest (wanted : String) (full : List Char) : List Node → Except Fault (List Element)
  | [] => .ok []
  | .text _ :: _ => .error .interruptedList
  | .element name attributes children :: rest =>
    if name = full then
      (listRest wanted full rest).map (⟨name, attributes, children⟩ :: ·)
    else do
      passRest wanted (.element name attributes children :: rest)
      return []

/-- The list of the elements with a name among the children of an element. -/
def listOf (wanted : String) : List Node → Except Fault (List Element)
  | [] => .ok []
  | .text run :: rest => do
    let _ ← Xml.runText run
    listOf wanted rest
  | .element name attributes children :: rest =>
    if isCalled wanted name then listRest wanted name (.element name attributes children :: rest)
    else do
      passOver attributes children
      listOf wanted rest

/-- The text that an element consists of. -/
def textOf : List Node → Except Fault String
  | [] => .ok ""
  | [.text run] => Xml.runText run
  | _ => .error .unexpectedElement

/-- The text of an element in an item, unless it or the item is marked as nil. -/
def optionalText (bindings : Bindings) (item attributes : List Char) (children : List Node) :
    Except Fault (Option String) := do
  let bindings ← bindings.enter attributes
  if Xml.marksNil bindings item || Xml.marksNil bindings attributes then
    passInside children
    return none
  else return some (← textOf children)

/-- Description and output among the children of an item, given what has been found of them and
the inside of the item's tag. Each may be given once. -/
def itemTexts (bindings : Bindings) (item : List Char)
    (description output : Option (Option String)) :
    List Node → Except Fault (Option String × Option String)
  | [] => .ok (description.join, output.join)
  | .text run :: rest => do
    let _ ← Xml.runText run
    itemTexts bindings item description output rest
  | .element name attributes children :: rest =>
    if isCalled "description" name then
      if description.isSome then .error .repeatedField
      else do
        let text ← optionalText bindings item attributes children
        itemTexts bindings item (some text) output rest
    else if isCalled "plugin_output" name then
      if output.isSome then .error .repeatedField
      else do
        let text ← optionalText bindings item attributes children
        itemTexts bindings item description (some text) rest
    else do
      passOver attributes children
      itemTexts bindings item description output rest

/-- The texts of the elements with a name among the children of an element. -/
def textsOf (wanted : String) : List Node → Except Fault (List String)
  | [] => .ok []
  | .text _ :: rest => textsOf wanted rest
  | .element name _ children :: rest =>
    if isCalled wanted name then do return (← textOf children) :: (← textsOf wanted rest)
    else textsOf wanted rest

/-- What an element says under a name, which may be said once: by an attribute or by an element
in its place. -/
def valueUnder? (name : String) (attributes : List Attribute) (children : List Node) :
    Except Fault (Option String) := do
  let said := (← Xml.attribute? name attributes).toList ++ (← textsOf ("@" ++ name) children)
  if said.length ≤ 1 then return said.head? else .error .repeatedField

/-- The item that an element describes, given the bindings around it. -/
def itemOf (bindings : Bindings) (e : Element) : Except Fault ItemElement := do
  let bindings ← bindings.enter e.attributes
  let attributes ← Xml.attributes e.attributes
  let value (name : String) : Except Fault String := do
    return (← valueUnder? name attributes e.children).getD ""
  let (description, output) ← itemTexts bindings e.attributes none none e.children
  return ⟨← value "port", ← value "protocol", ← value "severity", ← value "pluginID",
    ← value "pluginName", description, output⟩

/-- The host that an element describes, given the bindings around it. -/
def hostOf (bindings : Bindings) (e : Element) : Except Fault HostElement := do
  let bindings ← bindings.enter e.attributes
  match ← valueUnder? "name" (← Xml.attributes e.attributes) e.children with
  | none => .error .missingName
  | some name =>
    let items ← listOf "ReportItem" e.children
    return ⟨name, ← items.mapM (itemOf bindings)⟩

/-- The hosts that a report element describes, given the bindings around it. -/
def reportOf (bindings : Bindings) (e : Element) : Except Fault (List HostElement) := do
  let bindings ← bindings.enter e.attributes
  let _ ← Xml.attributes e.attributes
  let hosts ← listOf "ReportHost" e.children
  hosts.mapM (hostOf bindings)

/-- The document that a root node describes. -/
def documentOf (root : Node) : Except Fault Document := do
  match root with
  | .text _ => .error .textOutsideRoot
  | .element _ attributes children =>
    let bindings ← Xml.declared attributes
    let _ ← Xml.attributes attributes
    let reports ← listOf "Report" children
    return (← reports.mapM (reportOf bindings)).flatten

/-- The document written in a text. -/
def parseDocument (text : String) : Except Fault Document := do
  documentOf (← Xml.parse text)

end ScanQuery.Ingest
