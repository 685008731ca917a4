/-!
White space and trimming. A character is blank when it has the Unicode property `White_Space`;
trimming removes the blanks at both ends of a text and nothing else, so what is left either is
empty or begins and ends with a character that is not blank.
-/

namespace ScanQuery.Text

/-- White space: the characters with the Unicode property `White_Space`. -/
def isBlank (c : Char) : Bool :=
  let n := c.toNat
  (9 ≤ n && n ≤ 13) || n == 0x20 || n == 0x85 || n == 0xA0 || n == 0x1680 ||
    (0x2000 ≤ n && n ≤ 0x200A) || n == 0x2028 || n == 0x2029 || n == 0x202F || n == 0x205F ||
    n == 0x3000

/-- Drops the longest run at the end of `cs` whose characters all satisfy `p`. -/
def dropEndWhile (p : Char → Bool) (cs : List Char) : List Char :=
  (cs.reverse.dropWhile p).reverse

/-- Drops the characters at both ends that satisfy `p`. -/
def stripWhile (p : Char → Bool) (cs : List Char) : List Char :=
  dropEndWhile p (cs.dropWhile p)

/-- The text without the white space at its ends. -/
def trimChars (cs : List Char) : List Char :=
  stripWhile isBlank cs

/-- The text without the white space at its ends. -/
def trim (s : String) : String :=
  String.ofList (trimChars s.toList)

/-- A text of white space only, or none at all. -/
def isBlankText (s : String) : Bool :=
  s.toList.all isBlank

/-- The text without the line feeds at its end. -/
def dropFinalNewlines (s : String) : String :=
  String.ofList (dropEndWhile (· == '\n') s.toList)

/-- The text when something is left of it after trimming. -/
def nonBlank? (s : String) : Option String :=
  let trimmed := trim s
  if trimmed.isEmpty then none else some trimmed

@[simp] theorem toList_trim (s : String) : (trim s).toList = trimChars s.toList := by
  simp [trim]

end ScanQuery.Text
