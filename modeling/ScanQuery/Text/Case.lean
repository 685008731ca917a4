import ScanQuery.Text.CaseTable
import ScanQuery.Text.WordTable

/-!
Letter case and character classes. Two foldings are used: the ASCII one, which touches the
letters A to Z only, and the full one, which follows the Unicode default lower-case mapping. In
the full one a capital sigma that ends a word becomes `ς`, and `İ` becomes an `i` with a
combining dot; every other character is mapped on its own.
-/

namespace ScanQuery.Text

/-- Whether `n` lies in one of the ranges of an ascending table: the first range that does not
end before `n` decides. -/
def inRanges (ranges : List (Nat × Nat)) (n : Nat) : Bool :=
  match ranges.find? (n ≤ ·.2) with
  | some (first, _) => first ≤ n
  | none => false

/-- Letters, marks, digits, connector punctuation and join controls. -/
def isWord (c : Char) : Bool :=
  inRanges wordRanges c.toNat

/-! ### ASCII case -/

/-- The text with A to Z replaced by a to z. -/
def asciiLower (s : String) : String :=
  String.ofList (s.toList.map Char.toLower)

/-- Equality up to the case of the letters A to Z. -/
def equalIgnoringAsciiCase (s t : String) : Bool :=
  s.toList.map Char.toLower == t.toList.map Char.toLower

/-! ### Full case -/

/-- The other case of a character according to an ascending table of runs. -/
def shiftCase (runs : List CaseRun) (c : Char) : Char :=
  let n := c.toNat
  match runs.find? (n ≤ ·.last) with
  | some run =>
    if run.first ≤ n && (n - run.first) % run.step == 0 then Char.ofNat (n + run.shift).toNat
    else c
  | none => c

/-- The lower case of a character taken on its own. -/
def lowerChar (c : Char) : List Char :=
  if c.toNat < 0x80 then [c.toLower]
  else if c = 'İ' then ['i', '\u0307']
  else [shiftCase lowerCaseRuns c]

/-- The upper case of a character. -/
def upperChar (c : Char) : List Char :=
  if c.toNat < 0x80 then [c.toUpper]
  else
    match upperCaseSequences.lookup c.toNat with
    | some codes => codes.map Char.ofNat
    | none => [shiftCase upperCaseRuns c]

/-- Whether the first character that is not ignored for case is a cased letter. -/
def startsCased (cs : List Char) : Bool :=
  match cs.find? fun c => !inRanges caseIgnorableRanges c.toNat with
  | some c => inRanges casedRanges c.toNat
  | none => false

/-- The lower case of a capital sigma: final when a cased letter stands before it and none
behind it. The text before is given backwards. -/
def lowerSigma (before after : List Char) : Char :=
  if startsCased before && !startsCased after then 'ς' else 'σ'

/-- The lower case of `cs`, behind the text `before` given backwards. -/
def lowerFrom (before : List Char) : List Char → List Char
  | [] => []
  | c :: cs =>
    (if c = 'Σ' then [lowerSigma before cs] else lowerChar c) ++ lowerFrom (c :: before) cs

/-- The text in lower case. -/
def lower (s : String) : String :=
  String.ofList (lowerFrom [] s.toList)

/-- The text in upper case. -/
def upper (s : String) : String :=
  String.ofList (s.toList.flatMap upperChar)

end ScanQuery.Text
