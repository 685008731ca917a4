import ScanQuery.Text.Radix
import ScanQuery.Xml.Markup

/-!
Elements with what they hold. Text is held in runs: a run is the text and the character data
between two tags. White space at its start and at its end is dropped, but not from character data,
and a run of white space only is no run. References in a run are decoded where the run is used,
so a reference that nobody reads does no harm.

Reading stops with the end of the root element.
-/

namespace ScanQuery.Xml

/-- A part of a run of text. -/
inductive TextPart where
  | text (content : List Char)
  | cdata (content : List Char)
  deriving DecidableEq, Repr

/-- An element or a run of text. -/
inductive Node where
  | element (name attributes : List Char) (children : List Node)
  | text (run : List TextPart)
  deriving Inhabited

/-- An element whose closing tag is still to come; its children stand in reverse order. -/
structure OpenElement where
  name : List Char
  attributes : List Char
  children : List Node

/-- The run with one more part of text; a run does not begin with white space. -/
def addText (run : List TextPart) (content : List Char) : List TextPart :=
  if run.isEmpty then
    let content := content.dropWhile isSpace
    if content.isEmpty then [] else [.text content]
  else run ++ [.text content]

/-- The run without white space at its end, if a run is left. -/
def closeRun (run : List TextPart) : Option Node :=
  match run.getLast? with
  | none => none
  | some (.cdata _) => some (.text run)
  | some (.text content) =>
    let content := Text.dropEndWhile isSpace content
    if run.length = 1 ∧ content.isEmpty then none
    else some (.text (run.dropLast ++ [.text content]))

/-- Adds a node at the end of the innermost open element. -/
def addNode (node : Option Node) : List OpenElement → List OpenElement
  | [] => []
  | e :: outer => { e with children := node.toList ++ e.children } :: outer

/-- The root element that markup describes, inside the elements that are already open and with
the run of text read so far. -/
def build (stack : List OpenElement) (run : List TextPart) :
    List Markup → Except Fault Node
  | [] => .error (if stack.isEmpty then .noRoot else .unclosedElement)
  | .broken fault :: _ => .error fault
  | .text content :: rest => build stack (addText run content) rest
  | .cdata content :: rest => build stack (run ++ [.cdata content]) rest
  | .doctype :: rest =>
    if stack.isEmpty ∧ (closeRun run).isSome then .error .textOutsideRoot
    else build (addNode (closeRun run) stack) [] rest
  | .opening name attributes :: rest =>
    if stack.isEmpty ∧ (closeRun run).isSome then .error .textOutsideRoot
    else build (⟨name, attributes, []⟩ :: addNode (closeRun run) stack) [] rest
  | .closing name :: rest =>
    match addNode (closeRun run) stack with
    | [] => .error .mismatchedTag
    | e :: outer =>
      if e.name ≠ name then .error .mismatchedTag
      else
        let node := Node.element e.name e.attributes e.children.reverse
        if outer.isEmpty then .ok node else build (addNode (some node) outer) [] rest

/-- The root element of a document. -/
def parse (document : String) : Except Fault Node :=
  build [] [] (markupOf document)

/-! ### References -/

/-- The character with a code, unless it is zero or no character. -/
def character? (code : Nat) : Option Char :=
  if code ≠ 0 ∧ code.isValidChar then some (Char.ofNat code) else none

/-- The character that a reference stands for, given by what is between ampersand and
semicolon. -/
def reference? : List Char → Option Char
  | '#' :: 'x' :: digits => (Text.numberIn? 16 digits).bind character?
  | '#' :: digits => (Text.numberIn? 10 digits).bind character?
  | name =>
    [("lt", '<'), ("gt", '>'), ("amp", '&'), ("apos", '\''), ("quot", '"')].lookup
      (String.ofList name)

/-- The text with its references replaced. Every step takes at least one character. -/
def decodeChars : Nat → List Char → Except Fault (List Char)
  | 0, _ => .ok []
  | _ + 1, [] => .ok []
  | fuel + 1, c :: cs =>
    if c = '&' then
      let name := cs.takeWhile fun c => c != '&' && c != ';'
      match cs.drop name.length with
      | ';' :: rest =>
        match reference? name with
        | some c => (decodeChars fuel rest).map (c :: ·)
        | none => .error .badReference
      | _ => .error .badReference
    else (decodeChars fuel cs).map (c :: ·)

/-- The text with its references replaced. -/
def decode (cs : List Char) : Except Fault String :=
  (decodeChars (cs.length + 1) cs).map String.ofList

/-- The text of a run. -/
def runText : List TextPart → Except Fault String
  | [] => .ok ""
  | .text content :: rest => do return (← decode content) ++ (← runText rest)
  | .cdata content :: rest => do return String.ofList content ++ (← runText rest)

/-! ### Attributes -/

/-- An attribute as it is written: its full name and what stands in the quotes. -/
abbrev Attribute := List Char × List Char

/-- The attribute at the start of the inside of a tag, if one is left, and what follows it. -/
def attributeRest? (cs : List Char) : Except Fault (Option (Attribute × List Char)) :=
  match cs.dropWhile isSpace with
  | [] => .ok none
  | first :: cs =>
    let more := cs.takeWhile fun c => c != '=' && !isSpace c
    match (cs.drop more.length).dropWhile isSpace with
    | '=' :: cs =>
      match cs.dropWhile isSpace with
      | quote :: cs =>
        if quote = '"' ∨ quote = '\'' then
          match Text.cutAt? [quote] cs with
          | some (value, rest) => .ok (some ((first :: more, value), rest))
          | none => .error .badAttribute
        else .error .badAttribute
      | [] => .error .badAttribute
    | _ => .error .badAttribute

/-- The attributes in the inside of a tag, and what is wrong with the first that is not written
properly, if there is one. Every step takes at least one character. -/
def attributesFrom : Nat → List Char → List Attribute × Option Fault
  | 0, _ => ([], some .badAttribute)
  | fuel + 1, cs =>
    match attributeRest? cs with
    | .error fault => ([], some fault)
    | .ok none => ([], none)
    | .ok (some (found, rest)) =>
      let (more, fault) := attributesFrom fuel rest
      (found :: more, fault)

/-- The attributes in the inside of a tag up to the first that is not written properly. -/
def leadingAttributes (cs : List Char) : List Attribute :=
  (attributesFrom (cs.length + 1) cs).1

/-- Whether no two attributes have the same name. -/
def haveDistinctNames (attributes : List Attribute) : Bool :=
  match attributes with
  | [] => true
  | (name, _) :: rest => rest.all (·.1 ≠ name) && haveDistinctNames rest

/-- The attributes in the inside of a tag. -/
def attributes (cs : List Char) : Except Fault (List Attribute) :=
  match attributesFrom (cs.length + 1) cs with
  | (_, some fault) => .error fault
  | (found, none) =>
    if haveDistinctNames found then .ok found else .error .repeatedAttribute

/-- A name without its namespace. -/
def localName (name : List Char) : List Char :=
  match name.dropWhile (· != ':') with
  | _ :: rest => rest
  | [] => name

/-- The name under which an attribute is looked up: without its namespace, unless it declares a
namespace. -/
def attributeName (name : List Char) : List Char :=
  if "xmlns:".toList.isPrefixOf name then name else localName name

/-- The value of the attribute with a name, which may be given once. -/
def attribute? (name : String) (found : List Attribute) : Except Fault (Option String) :=
  match found.filter fun (n, _) => attributeName n = name.toList with
  | [] => .ok none
  | [(_, value)] => (decode value).map some
  | _ => .error .repeatedAttribute

end ScanQuery.Xml
