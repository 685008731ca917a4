import ScanQuery.Xml.Tree

/-!
Namespaces of XML. An attribute `xmlns:p` binds the prefix `p` to a namespace inside its element,
and a binding hides the outer ones of the same prefix. The prefixes `xml` and `xmlns` and their
namespaces belong together and cannot be bound otherwise.

Namespaces matter in one place only: an element is marked as nil by the attribute `nil` of the
namespace of schema instances, whatever prefix stands for that.
-/

namespace ScanQuery.Xml

/-- The namespaces of prefixes, the innermost binding first. -/
abbrev Bindings := List (List Char × List Char)

/-- The name of a namespace of the standard, given by its own part. -/
def standardName (part : String) : List Char :=
  ("http:" ++ "//www.w3.org/" ++ part).toList

/-- The namespace of the prefix `xml`. -/
def xmlNamespace : List Char := standardName "XML/1998/namespace"

/-- The namespace of the prefix `xmlns`. -/
def xmlnsNamespace : List Char := standardName "2000/xmlns/"

/-- The namespace of schema instances. -/
def instanceNamespace : List Char := standardName "2001/XMLSchema-instance"

/-- The prefix that an attribute with a name binds. -/
def boundPrefix? (name : List Char) : Option (List Char) :=
  "xmlns:".toList.isPrefixOf? name

/-- Whether a prefix may be bound to a namespace. -/
def isBindable (bound space : List Char) : Bool :=
  if bound = "xml".toList then space = xmlNamespace
  else bound ≠ "xmlns".toList ∧ space ≠ xmlNamespace ∧ space ≠ xmlnsNamespace

/-- The bindings that the inside of a tag declares, the last one first. -/
def declared (attributes : List Char) : Except Fault Bindings :=
  let found := (leadingAttributes attributes).filterMap fun (name, value) =>
    (boundPrefix? name).map fun bound => (bound, value)
  if found.all fun (bound, space) => isBindable bound space then .ok found.reverse
  else .error .badNamespace

/-- The bindings inside an element, given those around it and the inside of its tag. -/
def Bindings.enter (outer : Bindings) (attributes : List Char) : Except Fault Bindings := do
  return (← declared attributes) ++ outer

/-- The namespace and the local name of an attribute whose prefix is bound. -/
def qualified? (bindings : Bindings) (name : List Char) : Option (List Char × List Char) :=
  match Text.cutAt? [':'] name with
  | some (bound, rest) => (bindings.lookup bound).map fun space => (space, rest)
  | none => none

/-- Whether a tag marks its element as nil. -/
def marksNil (bindings : Bindings) (attributes : List Char) : Bool :=
  (leadingAttributes attributes).any fun (name, value) =>
    qualified? bindings name = some (instanceNamespace, "nil".toList) ∧
      (value = "true".toList ∨ value = "1".toList)

end ScanQuery.Xml
