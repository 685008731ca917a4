import ScanQuery.Proofs.Text.Lines
import ScanQuery.Report

/-!
Tables read back. A cell stands between spaces and bars, and a bar in its text stands behind a
backslash. So the bars of a line that end a cell are those that stand behind no backslash: the one
in front of a cell is at the start of the line or behind a space, whatever the cells hold, a
backslash at their end included. Backslashes themselves are written as they are; still a backslash
and a bar in a cell always are the written form of a bar, since every bar of the text got a backslash
of its own.
-/

namespace ScanQuery.Report

/-! ### Lines -/

theorem toList_text (ls : List String) :
    (text ls).toList = (ls.map String.toList).flatMap (· ++ ['\n']) := by
  induction ls with
  | nil => rfl
  | cons l ls ih =>
    have hcons : text (l :: ls) = l ++ "\n" ++ text ls := rfl
    rw [hcons, String.toList_append, String.toList_append, ih]
    rfl

/-- A text made of lines has these lines, but for a carriage return at the end of one. -/
theorem lines_text {ls : List String} (h : ∀ l ∈ ls, '\n' ∉ l.toList) :
    Text.lines (text ls) = ls.map fun l => String.ofList (Text.dropCarriageReturn l.toList) := by
  have hchars : ∀ cs ∈ ls.map String.toList, '\n' ∉ cs := by
    intro cs hcs
    obtain ⟨l, hl, rfl⟩ := List.mem_map.1 hcs
    exact h l hl
  rw [Text.lines, toList_text, Text.lineChars_ended hchars, List.map_map, List.map_map]
  rfl

/-! ### Cells -/

/-- The parts of a line between the bars that stand directly behind no backslash, where the line
follows a backslash or not. -/
def splitBars (escaped : Bool) : List Char → List (List Char)
  | [] => [[]]
  | c :: cs =>
    if c = '|' ∧ escaped = false then [] :: splitBars false cs
    else (splitBars (c == '\\') cs).modifyHead (c :: ·)

/-- The text with a bar for every backslash and bar. -/
def unescapeBars : List Char → List Char
  | [] => []
  | '\\' :: '|' :: cs => '|' :: unescapeBars cs
  | c :: cs => c :: unescapeBars cs

/-- The text between a space at its start and a space at its end. -/
def unpad? : List Char → Option (List Char)
  | ' ' :: cs => if cs.getLast? = some ' ' then some cs.dropLast else none
  | _ => none

/-- The text of a cell. -/
def readCell? (cs : List Char) : Option String :=
  (unpad? cs).map fun inner => String.ofList (unescapeBars inner)

/-- The row in a line of three cells with bars around them. -/
def readRow? (line : String) : Option Row :=
  match splitBars false line.toList with
  | [[], host, ports, comment, []] => do
    return ⟨← readCell? host, ← readCell? ports, ← readCell? comment⟩
  | _ => none

/-- A text as it stands between two bars. -/
def padded (s : String) : List Char :=
  ' ' :: (escapeBars s.toList ++ [' '])

theorem escapeBars_cons_bar (cs : List Char) :
    escapeBars ('|' :: cs) = '\\' :: '|' :: escapeBars cs := rfl

theorem escapeBars_cons {c : Char} (h : c ≠ '|') (cs : List Char) :
    escapeBars (c :: cs) = c :: escapeBars cs := by
  rw [escapeBars, List.flatMap_cons, if_neg h]
  rfl

/-- No written text begins with a bar. -/
theorem head?_escapeBars (cs : List Char) : (escapeBars cs).head? ≠ some '|' := by
  cases cs with
  | nil => simp [escapeBars]
  | cons c cs =>
    by_cases hc : c = '|'
    · simp [hc, escapeBars_cons_bar]
    · simp [escapeBars_cons hc, hc]

theorem unescapeBars_cons {c : Char} {cs : List Char} (h : cs.head? ≠ some '|') :
    unescapeBars (c :: cs) = c :: unescapeBars cs := by
  rw [unescapeBars]
  rintro rest rfl rfl
  exact h rfl

/-- A written text is read back. -/
theorem unescapeBars_escapeBars (cs : List Char) : unescapeBars (escapeBars cs) = cs := by
  induction cs with
  | nil => rfl
  | cons c cs ih =>
    by_cases hc : c = '|'
    · rw [hc, escapeBars_cons_bar, unescapeBars, ih]
    · rw [escapeBars_cons hc, unescapeBars_cons (head?_escapeBars cs), ih]

/-- No cut is made in a written text in front of a space, wherever it stands. -/
theorem splitBars_escapeBars (escaped : Bool) (cs rest : List Char) :
    splitBars escaped (escapeBars cs ++ ' ' :: rest) =
      (splitBars false rest).modifyHead ((escapeBars cs ++ [' ']) ++ ·) := by
  induction cs generalizing escaped with
  | nil => simp [escapeBars, splitBars]
  | cons c cs ih =>
    by_cases hc : c = '|'
    · simp [hc, escapeBars_cons_bar, splitBars, ih, List.modifyHead_modifyHead, Function.comp_def]
    · simp [escapeBars_cons hc, splitBars, hc, ih, List.modifyHead_modifyHead, Function.comp_def]

/-- A cell is cut off at the bar behind it. -/
theorem splitBars_padded (s : String) (rest : List Char) :
    splitBars false (padded s ++ '|' :: rest) = padded s :: splitBars false rest := by
  have hcell : padded s ++ '|' :: rest = ' ' :: (escapeBars s.toList ++ ' ' :: '|' :: rest) := by
    simp [padded]
  rw [hcell, splitBars, if_neg (by simp), splitBars_escapeBars]
  simp [splitBars, padded]

theorem readCell?_padded (s : String) : readCell? (padded s) = some s := by
  simp [readCell?, padded, unpad?, unescapeBars_escapeBars]

/-! ### Rows -/

theorem toList_rowLine (row : Row) :
    (rowLine row).toList = '|' :: (padded row.host ++ '|' ::
      (padded row.affectedPorts ++ '|' :: (padded row.comment ++ ['|']))) := by
  simp [rowLine, cell, padded, String.toList_append]

/-- The line of a row has an empty part at each end and its three cells in between. -/
theorem splitBars_rowLine (row : Row) :
    splitBars false (rowLine row).toList =
      [[], padded row.host, padded row.affectedPorts, padded row.comment, []] := by
  rw [toList_rowLine, splitBars, if_pos ⟨rfl, rfl⟩, splitBars_padded, splitBars_padded,
    splitBars_padded]
  rfl

theorem readRow?_rowLine (row : Row) : readRow? (rowLine row) = some row := by
  simp [readRow?, splitBars_rowLine, readCell?_padded]

/-- A line of a table ends with a bar. -/
theorem dropCarriageReturn_rowLine (row : Row) :
    String.ofList (Text.dropCarriageReturn (rowLine row).toList) = rowLine row := by
  have hlast : (rowLine row).toList.getLast? ≠ some '\r' := by
    rw [toList_rowLine]
    simp [List.getLast?_cons, List.getLast?_append]
  rw [Text.dropCarriageReturn, if_neg hlast, String.ofList_toList]

/-! ### Tables -/

/-- No text that a table shows has a line feed. -/
structure OneLined (r : Report) : Prop where
  query : '\n' ∉ r.header.query.toList
  time : '\n' ∉ r.header.time.toList
  plugins : ∀ p ∈ r.plugins, '\n' ∉ p.id.toList ∧ '\n' ∉ p.name.toList
  rows : ∀ row ∈ r.rows, '\n' ∉ row.host.toList ∧ '\n' ∉ row.affectedPorts.toList ∧
    '\n' ∉ row.comment.toList

/-- The lines in front of the rows. -/
def tableFront (r : Report) : List String :=
  r.headerLines ++ r.pluginLines ++
    ["| Host | Affected Ports | Plugins |", "|------|----------------|---------|"]

theorem table_eq (r : Report) : r.table = text (r.tableFront ++ r.rows.map rowLine) := by
  rw [table, tableLines, tableFront, List.append_assoc _ _ (r.rows.map rowLine)]

theorem length_tableFront (r : Report) : r.tableFront.length = 7 + r.plugins.length := by
  simp [tableFront, headerLines, pluginLines]
  omega

theorem feed_not_mem_escapeBars {cs : List Char} (h : '\n' ∉ cs) : '\n' ∉ escapeBars cs := by
  intro hfeed
  obtain ⟨c, hc, hfeed⟩ := List.mem_flatMap.1 hfeed
  split at hfeed
  · simp at hfeed
  · exact h (List.mem_singleton.1 hfeed ▸ hc)

/-- Texts without line feeds make lines without line feeds. -/
theorem feed_not_mem_lines {r : Report} (hr : r.OneLined) :
    ∀ l ∈ r.tableFront ++ r.rows.map rowLine, '\n' ∉ l.toList := by
  intro l hl
  simp only [tableFront, headerLines, pluginLines, List.cons_append, List.nil_append,
    List.mem_append, List.mem_cons, List.mem_map, List.not_mem_nil, or_false, or_assoc] at hl
  rcases hl with rfl | rfl | rfl | rfl | ⟨p, hp, rfl⟩ | rfl | rfl | rfl | ⟨row, hrow, rfl⟩
  · simpa [String.toList_append] using hr.query
  · simpa [String.toList_append] using hr.time
  · simp
  · simp
  · obtain ⟨hid, hname⟩ := hr.plugins p hp
    have hlabel : '\n' ∉ p.severity.label.toList := by cases p.severity <;> decide
    simpa [String.toList_append] using ⟨hlabel, hid, hname⟩
  · simp
  · simp
  · simp
  · obtain ⟨hhost, hports, hcomment⟩ := hr.rows row hrow
    rw [toList_rowLine]
    simp [padded, feed_not_mem_escapeBars, hhost, hports, hcomment]

/-- The table of a report whose texts have no line feeds has a line for each plugin and each row
besides seven others, and the rows are read back from its last lines. -/
theorem table_reads_back (r : Report) (hr : r.OneLined) :
    (Text.lines r.table).length = 7 + r.plugins.length + r.rows.length ∧
      ((Text.lines r.table).drop (7 + r.plugins.length)).map readRow? = r.rows.map some := by
  have hlines := lines_text (feed_not_mem_lines hr)
  rw [← table_eq] at hlines
  constructor
  · rw [hlines, List.length_map, List.length_append, length_tableFront, List.length_map]
  · rw [hlines, List.map_append, List.drop_left' (by rw [List.length_map, length_tableFront]),
      List.map_map, List.map_map]
    refine List.map_congr_left fun row _ => ?_
    rw [Function.comp_apply, Function.comp_apply, dropCarriageReturn_rowLine, readRow?_rowLine]

/-- A row with bars and backslashes in every place, and spaces at the ends of a text. -/
def barredRow : Row :=
  ⟨"10.0.0.9 (a|b\\)", " \\|", "|80/tcp:1||443/tcp:\\2 "⟩

/-- A report of a plugin and this row. -/
def barredReport : Report :=
  ⟨⟨"", "sev=med"⟩, [⟨"1", "Telnet | SSH", .medium⟩], "", [barredRow]⟩

/-- The bars and backslashes are read back. -/
theorem table_reads_back_barred :
    rowLine barredRow =
        "| 10.0.0.9 (a\\|b\\) |  \\\\| | \\|80/tcp:1\\|\\|443/tcp:\\2  |" ∧
      (Text.lines barredReport.table).length = 9 ∧
      ((Text.lines barredReport.table).drop 8).map readRow? = [some barredRow] := by
  have hlined : barredReport.OneLined := by
    constructor
    case query => decide
    case time => decide
    case plugins => simp [barredReport]
    case rows => simp [barredReport, barredRow]
  exact ⟨by cbv, table_reads_back barredReport hlined⟩

end ScanQuery.Report
