import ScanQuery.Text.Blank
import ScanQuery.Text.Split

/-!
Files. A tree is given by what stands at each place, a place being the list of the names that lead
to it from the root. Texts, directories and files that are no text are told apart; nothing else
about a file is ever asked. There are no permissions: every directory can be entered and listed, and
every file can be opened, so of the failures of a real file system those for want of a permission
and those of the device are left out.

Paths written as texts are followed name by name, from the root when they begin with a slash and
from the working directory otherwise: an empty name and `.` stay, `..` goes back, and everything
but the last name must lead to a directory. Names and paths have a greatest length, counted in
bytes, and hold no character with the code zero.
-/

namespace ScanQuery

/-- What stands at a place. -/
inductive FileTree.Entry where
  | text (content : String)
  | binary
  | directory
  deriving DecidableEq, Repr

/-- The working directory, and the entries by the names that lead to them. -/
structure FileTree where
  base : List String
  entries : List (List String × FileTree.Entry)
  deriving DecidableEq, Repr

namespace FileTree

/-- Why a file cannot be read or written. -/
inductive Fault where
  | notFound
  | notDirectory
  | isDirectory
  | nameTooLong
  | zeroInName
  | notText
  deriving DecidableEq, Repr

/-- The reason in the words of the system. -/
def Fault.message : Fault → String
  | notFound => "No such file or directory (os error 2)"
  | notDirectory => "Not a directory (os error 20)"
  | isDirectory => "Is a directory (os error 21)"
  | nameTooLong => "File name too long (os error 36)"
  | zeroInName => "file name contained an unexpected NUL byte"
  | notText => "stream did not contain valid UTF-8"

/-- What stands at a place; the working directory and what leads to it are always there. -/
def at? (t : FileTree) (place : List String) : Option Entry :=
  if place.isPrefixOf t.base then some .directory else t.entries.lookup place

/-- The tree with an entry at a place. -/
def put (t : FileTree) (place : List String) (e : Entry) : FileTree :=
  { t with entries := (place, e) :: t.entries.filter (·.1 ≠ place) }

/-- The tree with a directory at a place and at every place that leads there. -/
def makeDirectories (t : FileTree) (place : List String) : FileTree :=
  (List.range place.length).foldl (fun t n =>
    let above := place.take (n + 1)
    if (t.at? above).isSome then t else t.put above .directory) t

/-- The tree with an entry at a place, to which directories lead. -/
def add (t : FileTree) (place : List String) (e : Entry) : FileTree :=
  (t.makeDirectories place.dropLast).put place e

/-! ### Following paths -/

/-- The greatest length of a name. -/
def longestName : Nat := 255

/-- The greatest length of a path. -/
def longestPath : Nat := 4095

/-- The names in a path. -/
def names (path : String) : List String :=
  Text.split "/" path

/-- A path must not be empty, too long or hold a character with the code zero. -/
def checkPath (path : String) : Except Fault Unit :=
  if path.toList.contains '\x00' then .error .zeroInName
  else if path.isEmpty then .error .notFound
  else if longestPath < path.utf8ByteSize then .error .nameTooLong
  else .ok ()

/-- The place that names lead to from another place. -/
def follow (t : FileTree) (place : List String) : List String → Except Fault (List String)
  | [] => if (t.at? place).isSome then .ok place else .error .notFound
  | name :: rest =>
    match t.at? place with
    | none => .error .notFound
    | some .directory =>
      if name = "" ∨ name = "." then t.follow place rest
      else if name = ".." then t.follow place.dropLast rest
      else if longestName < name.utf8ByteSize then .error .nameTooLong
      else t.follow (place ++ [name]) rest
    | some _ => .error .notDirectory

/-- The place at which a path begins. -/
def start (t : FileTree) (path : String) : List String :=
  if path.toList.head? = some '/' then [] else t.base

/-- What stands under a path, and where. -/
def find (t : FileTree) (path : String) : Except Fault (List String × Entry) := do
  checkPath path
  let place ← t.follow (t.start path) (names path)
  match t.at? place with
  | some e => return (place, e)
  | none => .error .notFound

/-- Whether anything stands under a path. -/
def holds (t : FileTree) (path : String) : Bool :=
  match t.find path with
  | .ok _ => true
  | .error _ => false

/-- Whether a file stands under a path. -/
def isFile (t : FileTree) (path : String) : Bool :=
  match t.find path with
  | .ok (_, .directory) => false
  | .ok _ => true
  | .error _ => false

/-! ### Reading and writing -/

/-- The text in the file under a path. -/
def read (t : FileTree) (path : String) : Except Fault String := do
  match ← t.find path with
  | (_, .text content) => return content
  | (_, .binary) => .error .notText
  | (_, .directory) => .error .isDirectory

/-- The place at which a path puts a new file: its directory must be there, and its last name must
be one that a file can have. -/
def target (t : FileTree) (path : String) : Except Fault (List String) := do
  checkPath path
  let given := names path
  let kept := (given.reverse.dropWhile (· = "")).reverse
  let above ← t.follow (t.start path) kept.dropLast
  match t.at? above, kept.getLast? with
  | some .directory, some name =>
    if kept.length < given.length ∨ name = "." ∨ name = ".." then .error .isDirectory
    else if longestName < name.utf8ByteSize then .error .nameTooLong
    else return above ++ [name]
  | some .directory, none => .error .isDirectory
  | _, _ => .error .notDirectory

/-- The tree with a text in the file under a path. -/
def write (t : FileTree) (path content : String) : Except Fault FileTree := do
  let place ← t.target path
  if t.at? place = some .directory then .error .isDirectory
  else return t.put place (.text content)

/-! ### Walking -/

/-- The files below a place with the names that lead to them from there, in the order of a walk
that visits the entries of every directory by name. -/
def filesBelow (t : FileTree) (place : List String) : List (List String × Entry) :=
  let below := t.entries.filterMap fun (p, e) =>
    if e = .directory then none else (place.isPrefixOf? p).map fun rest => (rest, e)
  below.mergeSort fun a b => !decide (b.1 < a.1)

/-- The path of a file below a directory given by a path. -/
def joinPath (path : String) (names : List String) : String :=
  let rest := "/".intercalate names
  if path.toList.getLast? = some '/' then path ++ rest else path ++ "/" ++ rest

/-- The part of a file name behind its last dot, if something stands before the dot. -/
def extension? (name : String) : Option String :=
  let cs := name.toList
  let stem := Text.dropEndWhile (· != '.') cs
  if stem.length ≤ 1 then none else some (String.ofList (cs.drop stem.length))

/-! ### Changes -/

/-- The texts of a tree that another tree does not have at their places. -/
def newTexts (before after : FileTree) : List (List String × String) :=
  after.entries.filterMap fun (place, e) =>
    match e with
    | .text content => if before.at? place = some e then none else some (place, content)
    | _ => none

end FileTree

end ScanQuery
