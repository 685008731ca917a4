/-!
Cutting a text at a separator. The separator is searched from the left and matches do not
overlap: after a match the search goes on behind it. Joining the pieces with the separator
gives the text back, and no piece holds the separator.
-/

namespace ScanQuery.Text

/-- The text before the first `sep` and the text behind it. -/
def cutAt? (sep : List Char) : List Char → Option (List Char × List Char)
  | [] => if sep.isEmpty then some ([], []) else none
  | c :: cs =>
    match sep.isPrefixOf? (c :: cs) with
    | some rest => some ([], rest)
    | none => (cutAt? sep cs).map fun (before, after) => (c :: before, after)

theorem eq_append_of_isPrefixOf? {p cs rest : List Char} (h : p.isPrefixOf? cs = some rest) :
    cs = p ++ rest := by
  induction p generalizing cs with
  | nil => cases cs <;> exact Option.some.inj h
  | cons a p ih =>
    cases cs with
    | nil => exact nomatch h
    | cons b cs =>
      have hstep : (if a == b then p.isPrefixOf? cs else none) = some rest := h
      by_cases hab : a == b
      · rw [if_pos hab] at hstep
        rw [ih hstep, eq_of_beq hab, List.cons_append]
      · rw [if_neg hab] at hstep
        exact nomatch hstep

/-- A cut loses nothing but the separator. -/
theorem eq_append_of_cutAt? {sep cs before after : List Char}
    (h : cutAt? sep cs = some (before, after)) : cs = before ++ sep ++ after := by
  induction cs generalizing before with
  | nil =>
    simp only [cutAt?] at h
    split at h <;> simp_all
  | cons c cs ih =>
    simp only [cutAt?] at h
    split at h
    · next rest hp =>
      obtain ⟨rfl, rfl⟩ := by simpa using h
      simpa using eq_append_of_isPrefixOf? hp
    · obtain ⟨⟨b, a⟩, hc, heq⟩ := Option.map_eq_some_iff.1 h
      obtain ⟨rfl, rfl⟩ := by simpa using heq
      simp [ih hc]

/-- The pieces of `cs` between the matches of `sep`; an empty separator cuts nowhere. -/
def splitChars (sep cs : List Char) : List (List Char) :=
  if _hsep : sep = [] then [cs]
  else
    match _h : cutAt? sep cs with
    | none => [cs]
    | some (before, after) => before :: splitChars sep after
termination_by cs.length
decreasing_by
  have := congrArg List.length (eq_append_of_cutAt? _h)
  have := List.length_pos_iff.2 _hsep
  simp only [List.length_append] at *
  omega

/-- The pieces of a text between the matches of a separator, at least one. -/
def split (sep s : String) : List String :=
  (splitChars sep.toList s.toList).map String.ofList

/-- The text before and behind the first `sep`. -/
def splitOnce? (sep s : String) : Option (String × String) :=
  (cutAt? sep.toList s.toList).map fun (before, after) =>
    (String.ofList before, String.ofList after)

/-- What follows `start` in a text that begins with it. -/
def afterStart? (start s : String) : Option String :=
  (start.toList.isPrefixOf? s.toList).map String.ofList

/-- Whether `part` occurs somewhere in the text. -/
def holds (part : List Char) : List Char → Bool
  | [] => part.isEmpty
  | c :: cs => part.isPrefixOf (c :: cs) || holds part cs

/-- Whether the text holds `part` as a substring. -/
def contains (s part : String) : Bool :=
  holds part.toList s.toList

/-- The line without the carriage return at its end, if there is one. -/
def dropCarriageReturn (line : List Char) : List Char :=
  if line.getLast? = some '\r' then line.dropLast else line

/-- The lines of a text: each ends at a line feed and loses one carriage return before it; what
follows the last line feed is a line, kept as it is, only when it is not empty. -/
def lineChars (cs : List Char) : List (List Char) :=
  match _h : cutAt? ['\n'] cs with
  | none => if cs.isEmpty then [] else [cs]
  | some (line, rest) => dropCarriageReturn line :: lineChars rest
termination_by cs.length
decreasing_by
  have := congrArg List.length (eq_append_of_cutAt? _h)
  simp only [List.length_append, List.length_cons, List.length_nil] at *
  omega

/-- The lines of a text. -/
def lines (s : String) : List String :=
  (lineChars s.toList).map String.ofList

end ScanQuery.Text
