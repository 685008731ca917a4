import ScanQuery.Proofs.FileTree.Walk
import ScanQuery.Proofs.Ingestion
import ScanQuery.Proofs.Text.Recasing
import ScanQuery.Proofs.Text.Runs

/-!
Reading a directory. What a directory gives depends on the reports below it only: on the files whose
names have the extension that is set, in the order of a walk. The first of them that is no text or
no document ends the reading with the error that names it, and when there is none, their texts
are parsed in turn from the empty collection. Other files may come, change and go, wherever they
are, as long as the directory is still found.
-/

namespace ScanQuery

/-! ### Extensions -/

namespace FileTree

/-- The name ends in a dot and the extension, in any ASCII case, with something in front of the dot
and no dot behind it. -/
def HasExtension (extension name : String) : Prop :=
  ∃ stem e, name = stem ++ "." ++ e ∧ stem ≠ "" ∧ '.' ∉ e.toList ∧ Text.Recased e extension

/-- The extension stands behind the last dot, unless that is the first character. -/
theorem extension?_dotted (stem : String) {e : String} (he : '.' ∉ e.toList) :
    extension? (stem ++ "." ++ e) = if stem = "" then none else some e := by
  have hname : (stem ++ "." ++ e).toList = (stem.toList ++ ['.']) ++ e.toList := by
    simp [String.toList_append]
  have hstem : Text.dropEndWhile (· != '.') (stem.toList ++ ['.'] ++ e.toList) =
      stem.toList ++ ['.'] :=
    Text.dropEndWhile_append (by simp) (Text.bne_of_not_mem he)
  have hlength : (stem.toList ++ ['.']).length ≤ 1 ↔ stem = "" := by
    simp
  simp only [extension?, hname, hstem, hlength, List.drop_left, String.ofList_toList]

theorem extension?_of_not_mem {name : String} (h : '.' ∉ name.toList) : extension? name = none := by
  have hstem : Text.dropEndWhile (· != '.') ([] ++ name.toList) = [] :=
    Text.dropEndWhile_append (by simp) (Text.bne_of_not_mem h)
  rw [List.nil_append] at hstem
  simp [extension?, hstem]

/-- A name with a dot is cut at its last one. -/
theorem exists_dotted {name : String} (h : '.' ∈ name.toList) :
    ∃ stem e, name = stem ++ "." ++ e ∧ '.' ∉ e.toList := by
  obtain ⟨post, init, hrev, hpost⟩ := List.eq_append_cons_of_mem (List.mem_reverse.2 h)
  have hname : name.toList = init.reverse ++ ['.'] ++ post.reverse := by
    rw [← List.reverse_reverse name.toList, hrev]
    simp
  refine ⟨String.ofList init.reverse, String.ofList post.reverse, ?_, ?_⟩
  · rw [← String.toList_inj, hname]
    simp [String.toList_append]
  · simpa using hpost

theorem extension?_eq_some_iff {name e : String} :
    extension? name = some e ↔ ∃ stem, name = stem ++ "." ++ e ∧ stem ≠ "" ∧ '.' ∉ e.toList := by
  constructor
  · intro h
    by_cases hdot : '.' ∈ name.toList
    · obtain ⟨stem, e', rfl, he'⟩ := exists_dotted hdot
      rw [extension?_dotted stem he'] at h
      split at h
      · cases h
      · next hstem =>
        obtain rfl := Option.some.inj h
        exact ⟨stem, rfl, hstem, he'⟩
    · rw [extension?_of_not_mem hdot] at h
      cases h
  · rintro ⟨stem, rfl, hstem, he⟩
    rw [extension?_dotted stem he, if_neg hstem]

end FileTree

namespace Ingest

open FileTree (Entry HasExtension)

theorem isReportName_iff {extension name : String} :
    isReportName extension name = true ↔ HasExtension extension name := by
  rw [isReportName]
  constructor
  · intro h
    split at h
    · next e he =>
      obtain ⟨stem, hname, hstem, hdot⟩ := FileTree.extension?_eq_some_iff.1 he
      exact ⟨stem, e, hname, hstem, hdot, Text.equalIgnoringAsciiCase_iff.1 h⟩
    · cases h
  · rintro ⟨stem, e, hname, hstem, hdot, he⟩
    rw [FileTree.extension?_eq_some_iff.2 ⟨stem, hname, hstem, hdot⟩]
    exact Text.equalIgnoringAsciiCase_iff.2 he

instance (extension name : String) : Decidable (HasExtension extension name) :=
  decidable_of_iff _ isReportName_iff

/-! ### Reading reports in turn -/

/-- The error with which a file ends the reading, if it is no text or no document. -/
def refusal? (x : String × Entry) : Option IngestError :=
  match entryText x.2 with
  | .error cause => some (.read x.1 cause)
  | .ok text =>
    match parseDocument text with
    | .error fault => some (.invalidDocument x.1 fault)
    | .ok _ => none

/-- The texts in files, in order. -/
def contents (reports : List (String × Entry)) : List String :=
  reports.filterMap fun x => (entryText x.2).toOption

/-- Reading reports in turn: the first one that is refused, or the collection of their texts. -/
def readInTurn (settings : IngestSettings) (reports : List (String × Entry)) :
    Except IngestError Collection :=
  match reports.findSome? refusal? with
  | some cause => .error cause
  | none => .ok ((contents reports).foldl (Progress.parse settings) .start).collection

/-- The step for one report. -/
theorem value_addEntry (settings : IngestSettings) (p : Progress) (x : String × Entry) :
    (addEntry settings p x.1 (entryText x.2)).run.value =
      match refusal? x with
      | some cause => .error cause
      | none => .ok ((contents [x]).foldl (Progress.parse settings) p) := by
  cases htext : entryText x.2 with
  | error cause =>
    simp only [refusal?, htext]
    rfl
  | ok text =>
    have hcontents : contents [x] = [text] := by simp [contents, htext, Except.toOption]
    rw [hcontents, List.foldl_cons, List.foldl_nil]
    cases hparse : parseDocument text with
    | error fault =>
      simp only [refusal?, htext, hparse, addEntry, addText, Log.Logged.value_run_bind]
      rfl
    | ok d =>
      rw [parse_of_document hparse]
      simp only [refusal?, htext, hparse, addEntry, addText, Log.Logged.value_run_bind]
      rfl

/-- The run: reports are added until one of them is refused. -/
theorem value_foldlM_addEntry (settings : IngestSettings) (reports : List (String × Entry))
    (p : Progress) :
    (reports.foldlM (fun p (path, e) => addEntry settings p path (entryText e)) p).run.value =
      match reports.findSome? refusal? with
      | some cause => .error cause
      | none => .ok ((contents reports).foldl (Progress.parse settings) p) := by
  induction reports generalizing p with
  | nil => rfl
  | cons x rest ih =>
    have hcontents : contents (x :: rest) = contents [x] ++ contents rest :=
      List.filterMap_append (l := [x])
    rw [List.foldlM_cons, Log.Logged.value_run_bind, value_addEntry, List.findSome?_cons]
    cases refusal? x with
    | some cause => rfl
    | none =>
      rw [hcontents, List.foldl_append]
      exact ih _

/-! ### The reports of a walk -/

/-- The reports that a walk below a directory meets, in turn, each with its path. -/
def reportsIn (extension path : String) (walk : List (List String × Entry)) :
    List (String × Entry) :=
  (walk.filter fun x => x.2 ≠ .directory ∧ HasExtension extension (x.1.getLast?.getD "")).map
    fun x => (FileTree.joinPath path x.1, x.2)

variable {t t' : FileTree} {place : List String} {path : String}

theorem reportsBelow_eq (ht : t.WellFormed) {walk : List (List String × Entry)}
    (hwalk : t.Walk place walk) (extension path : String) :
    reportsBelow extension t path place = reportsIn extension path walk := by
  rw [reportsBelow, reportsIn, ← hwalk.filter_eq_filesBelow ht, List.filter_filter]
  refine congrArg _ (List.filter_congr fun x _ => ?_)
  rw [Bool.eq_iff_iff, Bool.and_eq_true, isReportName_iff, decide_eq_true_iff, decide_eq_true_iff,
    and_comm]

theorem value_readPath (settings : IngestSettings)
    (hdirectory : t.find path = .ok (place, .directory)) :
    (readPath settings t path).run.value =
      readInTurn settings (reportsBelow settings.extension t path place) := by
  have hrun := value_foldlM_addEntry settings (reportsBelow settings.extension t path place) .start
  rw [readPath, hdirectory]
  simp only [Log.Logged.value_run_bind, readInTurn]
  rw [hrun]
  cases (reportsBelow settings.extension t path place).findSome? refusal? <;> rfl

/-! ### Other files -/

/-- The directories of one tree are still there in another one, and the reports below a place are
the same. Everything else may differ. -/
structure SameReports (extension : String) (place : List String) (t t' : FileTree) : Prop where
  base_eq : t'.base = t.base
  directories : ∀ p, t.at? p = some .directory → t'.at? p = some .directory
  reports : ∀ names e, e ≠ .directory → HasExtension extension (names.getLast?.getD "") →
    (t'.at? (place ++ names) = some e ↔ t.at? (place ++ names) = some e)

theorem SameReports.reportsBelow_eq {extension : String} (h : SameReports extension place t t')
    (ht : t.WellFormed) (ht' : t'.WellFormed) (path : String) :
    reportsBelow extension t' path place = reportsBelow extension t path place := by
  rw [reportsBelow, reportsBelow]
  refine congrArg _ ?_
  -- both are in the order of the names, so it is enough that the same files are kept
  refine ((ht'.pairwise_filesBelow place).filter _).eq_of_mem_iff
    ((ht.pairwise_filesBelow place).filter _) ?_
  rintro ⟨names, e⟩
  rw [List.mem_filter, List.mem_filter, ht.mem_filesBelow_iff, ht'.mem_filesBelow_iff,
    isReportName_iff]
  constructor
  · rintro ⟨⟨hfile, hat⟩, hname⟩
    exact ⟨⟨hfile, (h.reports names e hfile hname).1 hat⟩, hname⟩
  · rintro ⟨⟨hfile, hat⟩, hname⟩
    exact ⟨⟨hfile, (h.reports names e hfile hname).2 hat⟩, hname⟩

theorem SameReports.readPath_eq {settings : IngestSettings}
    (h : SameReports settings.extension place t t') (ht : t.WellFormed) (ht' : t'.WellFormed)
    (hdirectory : t.find path = .ok (place, .directory)) :
    readPath settings t' path = readPath settings t path := by
  have hdirectory' := FileTree.find_of_directories h.base_eq h.directories hdirectory
  rw [readPath, readPath, hdirectory, hdirectory']
  simp only [h.reportsBelow_eq ht ht']

/-- One file is new, changed or gone, and everything else is as it was. -/
structure FileChange (file : List String) (t t' : FileTree) : Prop where
  base_eq : t'.base = t.base
  at?_eq : ∀ p, p ≠ file → t'.at? p = t.at? p
  before : t.at? file ≠ some .directory
  after : t'.at? file ≠ some .directory

/-- Such a file makes no difference to a directory as long as it is no report below it. -/
theorem FileChange.sameReports {file : List String} (h : FileChange file t t') {extension : String}
    (hother : ∀ names, file = place ++ names → ¬ HasExtension extension (names.getLast?.getD "")) :
    SameReports extension place t t' where
  base_eq := h.base_eq
  directories p hp := by
    have hne : p ≠ file := fun heq => h.before (heq ▸ hp)
    rw [h.at?_eq p hne, hp]
  reports names e _ hname := by
    have hne : place ++ names ≠ file := fun heq => hother names heq.symm hname
    rw [h.at?_eq _ hne]

/-- A directory is read by a walk through it: the reports on the way are read in turn, and nothing
else has a say in it. -/
theorem directory_read_in_turn (settings : IngestSettings) (ht : t.WellFormed)
    (hdirectory : t.find path = .ok (place, .directory)) :
    (∃! walk, t.Walk place walk) ∧
      (∀ walk, t.Walk place walk → (readPath settings t path).run.value =
        readInTurn settings (reportsIn settings.extension path walk)) ∧
      ∀ t', t'.WellFormed → SameReports settings.extension place t t' →
        readPath settings t' path = readPath settings t path := by
  refine ⟨?_, fun walk hwalk => ?_, fun t' ht' hsame => hsame.readPath_eq ht ht' hdirectory⟩
  · obtain ⟨-, -, hplace⟩ := FileTree.find_eq_ok_iff.1 hdirectory
    obtain ⟨walk, hwalk⟩ := FileTree.exists_walk (Option.isSome_of_mem hplace)
    exact ⟨walk, hwalk, fun walk' hwalk' => hwalk'.unique ht hwalk⟩
  · rw [value_readPath settings hdirectory, reportsBelow_eq ht hwalk]

/-- A directory with a report in a folder, another one beside the folder, a file that has the name
of a report and is no text, and notes that would be no document. -/
def scanFolder : FileTree where
  base := []
  entries := [(["scans"], .directory), (["scans", "b.nessus"], .text telnetReport),
    (["scans", "notes.txt"], .text "<Report>"), (["scans", "a"], .directory),
    (["scans", "a", "z.NESSUS"], .text telnetReport), (["scans", "c.nessus"], .binary)]

/-- The walk through it. -/
def scanWalk : List (List String × Entry) :=
  [([], .directory), (["a"], .directory), (["a", "z.NESSUS"], .text telnetReport),
    (["b.nessus"], .text telnetReport), (["c.nessus"], .binary),
    (["notes.txt"], .text "<Report>")]

/-- The same directory without the notes, and a report in another directory. -/
def tidyFolder : FileTree where
  base := []
  entries := [(["scans"], .directory), (["scans", "b.nessus"], .text telnetReport),
    (["scans", "a"], .directory), (["scans", "a", "z.NESSUS"], .text telnetReport),
    (["scans", "c.nessus"], .binary), (["old"], .directory),
    (["old", "a.nessus"], .text telnetReport)]

theorem wellFormed_scanFolder : scanFolder.WellFormed where
  distinct := by decide
  above := by decide
  base := by decide

theorem wellFormed_tidyFolder : tidyFolder.WellFormed where
  distinct := by decide
  above := by decide
  base := by decide

theorem walk_scanFolder : scanFolder.Walk ["scans"] scanWalk := by
  refine (FileTree.walk_iff wellFormed_scanFolder rfl).2 ⟨by decide +kernel, fun names e => ?_⟩
  rw [wellFormed_scanFolder.at?_eq_some_iff]
  grind [scanFolder, scanWalk]

theorem sameReports_tidyFolder : SameReports "nessus" ["scans"] scanFolder tidyFolder where
  base_eq := rfl
  directories p hp := by
    rw [wellFormed_scanFolder.at?_eq_some_iff] at hp
    rw [wellFormed_tidyFolder.at?_eq_some_iff]
    grind [scanFolder, tidyFolder]
  reports names e hfile hname := by
    rw [wellFormed_scanFolder.at?_eq_some_iff, wellFormed_tidyFolder.at?_eq_some_iff]
    have hnotes : names ≠ ["notes.txt"] := by
      rintro rfl
      revert hname
      decide +kernel
    grind [scanFolder, tidyFolder]

/-- Reading stops at the file that is no text, and does the same in the tidied directory. -/
theorem scanFolder_read_in_turn :
    scanFolder.find "scans" = .ok (["scans"], .directory) ∧
      scanFolder.Walk ["scans"] scanWalk ∧
      (readPath ⟨"nessus", true⟩ scanFolder "scans").run.value =
        .error (.read "scans/c.nessus" .notText) ∧
      SameReports "nessus" ["scans"] scanFolder tidyFolder ∧
      readPath ⟨"nessus", true⟩ tidyFolder "scans" =
        readPath ⟨"nessus", true⟩ scanFolder "scans" := by
  have hdirectory : scanFolder.find "scans" = .ok (["scans"], .directory) := by decide +kernel
  obtain ⟨-, hread, hother⟩ := directory_read_in_turn ⟨"nessus", true⟩ wellFormed_scanFolder
    hdirectory
  refine ⟨hdirectory, walk_scanFolder, ?_, sameReports_tidyFolder,
    hother tidyFolder wellFormed_tidyFolder sameReports_tidyFolder⟩
  rw [hread scanWalk walk_scanFolder]
  decide +kernel

end Ingest

end ScanQuery
