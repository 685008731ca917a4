import ScanQuery.Host
import ScanQuery.Log.Event

/-!
Host names found in the output of plugins that disclose them.

| plugin       | source           | shape of the output                             |
|--------------|------------------|-------------------------------------------------|
| 12053        | name resolution  | `10.0.0.5 resolves as host.example.com.`        |
| 10150, 42410 | NetBIOS, NTLMSSP | a table of `HOSTNAME = Computer name`           |
| 53513        | LLMNR            | `the name of the remote host is 'HOSTNAME'.`    |
| 55472        | device           | `Hostname : HOSTNAME`                           |

A name from plugin 12053 goes before any other; among the rest the first finding that yields a
name decides, in the order of the port-keys. Each shape is searched from the left: the first
place at which it fits gives the name.
-/

namespace ScanQuery.HostName

/-- The plugin that resolves addresses to names. -/
def nameResolution : String := "12053"

/-- The word at the start of a text. -/
def word (cs : List Char) : List Char :=
  cs.takeWhile fun c => !Text.isBlank c

/-- The text behind the word at its start. -/
def afterWord (cs : List Char) : List Char :=
  cs.dropWhile fun c => !Text.isBlank c

/-- The first answer that a reader gives on the text or on one of its ends. -/
def firstFit {α : Type} (reader : List Char → Option α) : List Char → Option α
  | [] => reader []
  | c :: cs => (reader (c :: cs)).orElse fun _ => firstFit reader cs

/-- A name without white space around it, when something is left. -/
def name? (cs : List Char) : Option String :=
  Text.nonBlank? (String.ofList cs)

/-! ### Name resolution -/

/-- A word that reaches to the end of its line. -/
def lineEndWord? (cs : List Char) : Option (List Char) :=
  if (word cs).isEmpty then none
  else
    match afterWord cs with
    | [] => some (word cs)
    | c :: _ => if c = '\n' then some (word cs) else none

/-- The text without one dot at its end. -/
def dropFinalDot (cs : List Char) : List Char :=
  if cs.getLast? = some '.' then cs.dropLast else cs

/-- The first word that ends a line, without the dot at its end. Line feeds at the end of the
output do not count. -/
def ofResolution? (output : String) : Option String :=
  (firstFit lineEndWord? (Text.dropEndWhile (· == '\n') output.toList)).bind fun w =>
    name? (dropFinalDot w)

/-! ### Name tables -/

/-- A white space character and the word behind it. -/
def spacedWord? : List Char → Option (List Char × List Char)
  | c :: cs =>
    if Text.isBlank c ∧ !(word cs).isEmpty then some (c :: word cs, afterWord cs) else none
  | [] => none

/-- Two words, each behind one white space character. -/
def twoSpacedWords? (cs : List Char) : Option (List Char) := do
  let (first, rest) ← spacedWord? cs
  let (second, _) ← spacedWord? rest
  return first ++ second

/-- An entry of a name table at the start of a text: a word that may be missing, spaces, an
equals sign, a word that may be missing and two more words. The equals sign may also be part of
the word at the start. -/
def tableEntry? (cs : List Char) : Option (List Char) :=
  let start := word cs
  let rest := afterWord cs
  let spaces := rest.takeWhile (· == ' ')
  let spaced : Option (List Char) :=
    match rest.dropWhile (· == ' ') with
    | '=' :: tail =>
      (twoSpacedWords? (afterWord tail)).map fun words =>
        start ++ spaces ++ '=' :: (word tail ++ words)
    | _ => none
  spaced.orElse fun _ =>
    if start.contains '=' then (twoSpacedWords? rest).map (start ++ ·) else none

/-- The text of the first table entry up to its first space. -/
def ofTable? (output : String) : Option String :=
  (firstFit tableEntry? output.toList).bind fun entry => name? (entry.takeWhile (· != ' '))

/-! ### Quoted names -/

/-- The text up to the end of the line. -/
def restOfLine (cs : List Char) : List Char :=
  cs.takeWhile (· != '\n')

/-- From a quote at the start of a text to the last quote of the line. -/
def quoted? : List Char → Option (List Char)
  | '\'' :: cs =>
    let line := restOfLine cs
    if line.contains '\'' then some (Text.dropEndWhile (· != '\'') line) else none
  | _ => none

/-- What stands between the first and the last quote of the first line with two, without the
quotes. -/
def ofQuotes? (output : String) : Option String :=
  (firstFit quoted? output.toList).bind fun cs => name? (cs.filter (· != '\''))

/-! ### Labelled names -/

/-- Characters that do not belong to words, and then a word; both may be missing. -/
def symbolsAndWord (cs : List Char) : List Char × List Char :=
  let symbols := cs.takeWhile fun c => !Text.isWord c
  let rest := cs.dropWhile fun c => !Text.isWord c
  (symbols ++ rest.takeWhile Text.isWord, rest.dropWhile Text.isWord)

/-- What a label's value takes of the text behind the colon: symbols, a word, and all else up to
the end of the line. -/
def labelValue (cs : List Char) : List Char :=
  let (value, rest) := symbolsAndWord cs
  value ++ restOfLine rest

/-- A label and its value at the start of a text: symbols, a word and a colon. Where no colon
follows the word, the last colon among the symbols takes its place. -/
def labelled? (cs : List Char) : Option (List Char) :=
  let (label, rest) := symbolsAndWord cs
  match rest with
  | ':' :: tail => some (label ++ ':' :: labelValue tail)
  | _ =>
    let symbols := cs.takeWhile fun c => !Text.isWord c
    if symbols.contains ':' then
      let label := Text.dropEndWhile (· != ':') symbols
      some (label ++ labelValue (cs.drop label.length))
    else none

/-- The text between the first colon of the first labelled value and the next. Spaces do not
count. -/
def ofLabel? (output : String) : Option String :=
  (firstFit labelled? (output.toList.filter (· != ' '))).bind fun cs =>
    name? (((cs.dropWhile (· != ':')).drop 1).takeWhile (· != ':'))

/-! ### Choice of the name -/

/-- The name in the output of a plugin. -/
def ofOutput? (pluginId output : String) : Option String :=
  if pluginId = nameResolution then ofResolution? output
  else if pluginId = "10150" ∨ pluginId = "42410" then ofTable? output
  else if pluginId = "53513" then ofQuotes? output
  else if pluginId = "55472" then ofLabel? output
  else none

/-- The name that a finding gives. -/
def ofFinding? (f : Finding) : Option String :=
  f.output.bind (ofOutput? f.pluginId)

/-- The name of a host, as its findings tell it. -/
def resolve? (h : Host) : Option String :=
  let findings := h.located.map (·.2)
  let (resolving, other) := findings.partition (·.pluginId = nameResolution)
  (resolving.findSome? ofFinding?).orElse fun _ => other.findSome? ofFinding?

/-- The note about the search for a host's name. -/
def event (h : Host) : Log.Event :=
  match resolve? h with
  | some name => .debug "Resolved host name" [("ip", h.ip), ("name", name)]
  | none => .debug "No host name found" [("ip", h.ip)]

end ScanQuery.HostName
