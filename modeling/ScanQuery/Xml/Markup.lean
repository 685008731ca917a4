import ScanQuery.Text.Blank
import ScanQuery.Text.Split

/-!
The markup of an XML document: tags, text, character data sections and document type declarations
in the order in which they stand. Comments and processing instructions are left out, and an empty
element counts as an opening and a closing tag. What comes behind a place that cannot be read is
not looked at: the list of markup ends there with the reason.
-/

namespace ScanQuery.Xml

/-- What can be wrong with a document. -/
inductive Fault where
  | unclosedMarkup
  | unknownMarkup
  | noRoot
  | textOutsideRoot
  | unclosedElement
  | mismatchedTag
  | badAttribute
  | repeatedAttribute
  | badNamespace
  | badReference
  | interruptedList
  | repeatedField
  | missingName
  | unexpectedElement
  deriving DecidableEq, Repr

/-- The reason in words. -/
def Fault.message : Fault → String
  | unclosedMarkup => "markup is not closed"
  | unknownMarkup => "markup is of no known kind"
  | noRoot => "there is no root element"
  | textOutsideRoot => "there is text before the root element"
  | unclosedElement => "an element is not closed"
  | mismatchedTag => "a closing tag does not match"
  | badAttribute => "an attribute is not written properly"
  | repeatedAttribute => "an attribute is given twice"
  | badNamespace => "a reserved namespace or its prefix is bound"
  | badReference => "a reference is not known"
  | interruptedList => "text stands between the elements of a list"
  | repeatedField => "elements of one kind do not follow each other"
  | missingName => "a host has no name"
  | unexpectedElement => "an element stands where text is expected"

/-- A piece of markup. -/
inductive Markup where
  | opening (name attributes : List Char)
  | closing (name : List Char)
  | text (content : List Char)
  | cdata (content : List Char)
  | doctype
  | broken (fault : Fault)
  deriving DecidableEq, Repr

/-- The white space of XML. -/
def isSpace (c : Char) : Bool :=
  c == ' ' || c == '\t' || c == '\n' || c == '\r'

/-- The inside of a tag, up to the first angle bracket that is not in quotes, and what follows
it. -/
def tagInside? (quote : Option Char) : List Char → Option (List Char × List Char)
  | [] => none
  | c :: cs =>
    match quote with
    | none =>
      if c = '>' then some ([], cs)
      else
        let quote := if c = '"' ∨ c = '\'' then some c else none
        (tagInside? quote cs).map fun (inside, rest) => (c :: inside, rest)
    | some q =>
      let quote := if c = q then none else some q
      (tagInside? quote cs).map fun (inside, rest) => (c :: inside, rest)

/-- The inside of a declaration, in which angle brackets may be nested, and what follows it. -/
def declarationInside? (depth : Nat) : List Char → Option (List Char × List Char)
  | [] => none
  | c :: cs =>
    if c = '>' ∧ depth = 0 then some ([], cs)
    else
      let depth := if c = '<' then depth + 1 else if c = '>' then depth - 1 else depth
      (declarationInside? depth cs).map fun (inside, rest) => (c :: inside, rest)

/-- The markup of an opening tag or an empty element. -/
def openingMarkup (inside : List Char) : List Markup :=
  let content := if inside.getLast? = some '/' then inside.dropLast else inside
  let name := content.takeWhile fun c => !isSpace c
  let tag := Markup.opening name (content.drop name.length)
  if inside.getLast? = some '/' then [tag, .closing name] else [tag]

/-- Whether the inside of a declaration declares a document type and names it. -/
def isDoctype (inside : List Char) : Bool :=
  (inside.take 7).map Char.toUpper == "DOCTYPE".toList && (inside.drop 7).any fun c => !isSpace c

/-- The markup behind an opening angle bracket, and what follows it. -/
def taggedRest? (cs : List Char) : Except Fault (List Markup × List Char) :=
  match cs with
  | '!' :: '-' :: '-' :: body =>
    match Text.cutAt? "-->".toList body with
    | some (_, rest) => .ok ([], rest)
    | none => .error .unclosedMarkup
  | '!' :: '[' :: body =>
    match "CDATA[".toList.isPrefixOf? body with
    | none => .error .unknownMarkup
    | some content =>
      match Text.cutAt? "]]>".toList content with
      | some (content, rest) => .ok ([.cdata content], rest)
      | none => .error .unclosedMarkup
  | '!' :: body =>
    match declarationInside? 0 body with
    | some (inside, rest) =>
      if isDoctype inside then .ok ([.doctype], rest) else .error .unknownMarkup
    | none => .error .unclosedMarkup
  | '?' :: '>' :: _ => .error .unclosedMarkup
  | '?' :: body =>
    match Text.cutAt? "?>".toList body with
    | some (_, rest) => .ok ([], rest)
    | none => .error .unclosedMarkup
  | '/' :: body =>
    match Text.cutAt? ['>'] body with
    | some (name, rest) =>
      let trimmed := Text.dropEndWhile isSpace name
      .ok ([.closing (if trimmed.isEmpty then name else trimmed)], rest)
    | none => .error .unclosedMarkup
  | body =>
    match tagInside? none body with
    | some (inside, rest) => .ok (openingMarkup inside, rest)
    | none => .error .unclosedMarkup

/-- The markup of a text. Every step takes at least one character. -/
def markup : Nat → List Char → List Markup
  | 0, _ => []
  | _ + 1, [] => []
  | fuel + 1, c :: cs =>
    if c = '<' then
      match taggedRest? cs with
      | .ok (found, rest) => found ++ markup fuel rest
      | .error fault => [.broken fault]
    else
      let content := (c :: cs).takeWhile (· != '<')
      .text content :: markup fuel ((c :: cs).drop content.length)

/-- The markup of a document, without the byte order mark at its start. -/
def markupOf (document : String) : List Markup :=
  let cs := match document.toList with
    | '\uFEFF' :: cs => cs
    | cs => cs
  markup (cs.length + 1) cs

end ScanQuery.Xml
