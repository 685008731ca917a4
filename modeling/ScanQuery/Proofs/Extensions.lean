import ScanQuery.Config.Load
import ScanQuery.Proofs.Directories

/-!
Extensions that are set and extensions that files have. A setting is accepted unless nothing is left
of it after trimming or what is left begins with a dot; a file has what stands behind the last dot
of its name, and that is compared with the setting as it stands. So a setting with a dot in it is
that of no file, and a setting with white space around it is that of those files only which are
spelled with the white space. Files that are spelled in another way may as well not be there.
-/

namespace ScanQuery.Ingest

open FileTree (Entry HasExtension)

/-- The text is the extension that is set, with or without the white space around it, in any ASCII
case. -/
def Spells (extension e : String) : Prop :=
  Text.Recased e extension ∨ Text.Recased e (Text.trim extension)

/-- A setting that files can have: without a dot, and spelled in the file as it stands. -/
def Bare (extension e : String) : Prop :=
  '.' ∉ extension.toList ∧ Text.Recased e extension

instance (extension e : String) : Decidable (Spells extension e) :=
  inferInstanceAs (Decidable (_ ∨ _))

instance (extension e : String) : Decidable (Bare extension e) :=
  inferInstanceAs (Decidable (_ ∧ _))

theorem Spells.dot_mem {extension e : String} (h : Spells extension e) (hdot : '.' ∈ e.toList) :
    '.' ∈ extension.toList := by
  rcases h with h | h
  · exact (h.mem_iff (by decide)).1 hdot
  · have htrimmed := (h.mem_iff (by decide)).1 hdot
    rw [Text.toList_trim] at htrimmed
    exact Text.mem_of_mem_trimChars htrimmed

/-- A name that is spelled with the setting has it as its extension only if it is bare. -/
theorem hasExtension_iff {extension stem e : String} (hstem : stem ≠ "") (he : Spells extension e) :
    HasExtension extension (stem ++ "." ++ e) ↔ Bare extension e := by
  constructor
  · rintro ⟨stem', e', hname, hstem', hdot', he'⟩
    have hdot : '.' ∉ extension.toList := fun h => hdot' ((he'.mem_iff (by decide)).2 h)
    -- the last dot is the one behind the stem, so both spell the same extension
    have hfound := FileTree.extension?_eq_some_iff.2 ⟨stem', hname, hstem', hdot'⟩
    rw [FileTree.extension?_dotted stem fun h => hdot (he.dot_mem h), if_neg hstem] at hfound
    obtain rfl := Option.some.inj hfound
    exact ⟨hdot, he'⟩
  · rintro ⟨hdot, hrecased⟩
    exact ⟨stem, e, rfl, hstem, fun h => hdot (he.dot_mem h), hrecased⟩

variable {t : FileTree} {place : List String} {path : String}

/-- A report below a directory is read when its turn comes. -/
theorem exists_turn {settings : IngestSettings} {names : List String} {entry : Entry}
    (ht : t.WellFormed) (hdirectory : t.find path = .ok (place, .directory))
    (hfile : t.at? (place ++ names) = some entry) (hentry : entry ≠ .directory)
    (hname : HasExtension settings.extension (names.getLast?.getD "")) :
    ∃ front rest, (readPath settings t path).run.value =
      readInTurn settings (front ++ (FileTree.joinPath path names, entry) :: rest) := by
  have hmem : (FileTree.joinPath path names, entry) ∈
      reportsBelow settings.extension t path place := by
    refine List.mem_map.2 ⟨(names, entry), List.mem_filter.2 ⟨?_, isReportName_iff.2 hname⟩, rfl⟩
    exact ht.mem_filesBelow_iff.2 ⟨hentry, hfile⟩
  obtain ⟨front, rest, hsplit⟩ := List.append_of_mem hmem
  exact ⟨front, rest, by rw [value_readPath settings hdirectory, hsplit]⟩

/-- A file that is spelled with the extension is read in its turn if the extension is bare, and
makes no difference otherwise. -/
theorem spelled_file_read_iff_bare (settings : IngestSettings) (folders : List String)
    (stem e : String) {entry : Entry} (ht : t.WellFormed)
    (hdirectory : t.find path = .ok (place, .directory))
    (hfile : t.at? (place ++ (folders ++ [stem ++ "." ++ e])) = some entry)
    (hentry : entry ≠ .directory) (hstem : stem ≠ "") (he : Spells settings.extension e) :
    (Bare settings.extension e → ∃ front rest, (readPath settings t path).run.value =
        readInTurn settings
          (front ++ (FileTree.joinPath path (folders ++ [stem ++ "." ++ e]), entry) :: rest)) ∧
      (¬ Bare settings.extension e → ∀ t', t'.WellFormed →
        FileChange (place ++ (folders ++ [stem ++ "." ++ e])) t t' →
          readPath settings t' path = readPath settings t path) := by
  have hlast : (folders ++ [stem ++ "." ++ e]).getLast?.getD "" = stem ++ "." ++ e := by
    rw [List.getLast?_concat, Option.getD_some]
  constructor
  · intro hbare
    refine exists_turn ht hdirectory hfile hentry ?_
    rw [hlast]
    exact (hasExtension_iff hstem he).2 hbare
  · intro hbare t' ht' hchange
    refine (hchange.sameReports fun names hnames => ?_).readPath_eq ht ht' hdirectory
    rw [← List.append_cancel_left hnames, hlast, hasExtension_iff hstem he]
    exact hbare

/-- A directory with one report. -/
def loneReport (name : String) : FileTree :=
  ⟨[], [(["scans"], .directory), (["scans", name], .text telnetReport)]⟩

theorem find_loneReport (name : String) :
    (loneReport name).find "scans" = .ok (["scans"], .directory) := by
  have hnames : FileTree.names "scans" = ["scans"] := by decide +kernel
  refine FileTree.find_eq_ok_iff.2 ⟨by decide +kernel, ?_, rfl⟩
  rw [hnames]
  rfl

/-- The directory when the report is gone. -/
def noReport : FileTree :=
  ⟨[], [(["scans"], .directory)]⟩

/-- A report is read under its extension in capitals, and skipped under its extension behind a
space, so that it may as well be gone. -/
theorem lone_report_read_iff_bare :
    (∃ front rest, (readPath ⟨"NESSUS", true⟩ (loneReport "a.nessus") "scans").run.value =
        readInTurn ⟨"NESSUS", true⟩
          (front ++ ("scans/a.nessus", .text telnetReport) :: rest)) ∧
      readPath ⟨" nessus", true⟩ noReport "scans" =
        readPath ⟨" nessus", true⟩ (loneReport "a.nessus") "scans" := by
  have hlone : (loneReport "a.nessus").WellFormed := ⟨by decide, by decide, by decide⟩
  have hnone : noReport.WellFormed := ⟨by decide, by decide, by decide⟩
  have hchange : FileChange ["scans", "a.nessus"] (loneReport "a.nessus") noReport := by
    refine ⟨rfl, fun p hp => ?_, by decide +kernel, by decide +kernel⟩
    simp [FileTree.at?, loneReport, noReport, List.lookup_cons, beq_false_of_ne hp]
  have hpath : FileTree.joinPath "scans" ["a.nessus"] = "scans/a.nessus" := by decide +kernel
  obtain ⟨hread, -⟩ := spelled_file_read_iff_bare ⟨"NESSUS", true⟩ [] "a" "nessus" hlone
    (find_loneReport _) rfl (by decide) (by decide) (by decide +kernel)
  obtain ⟨-, hskipped⟩ := spelled_file_read_iff_bare ⟨" nessus", true⟩ [] "a" "nessus" hlone
    (find_loneReport _) rfl (by decide) (by decide) (by decide +kernel)
  refine ⟨hpath ▸ hread ?_, hskipped ?_ noReport hnone hchange⟩
  · decide +kernel
  · decide +kernel

/-! ### Reports that are skipped -/

/-- Reports that were read have left their hosts. -/
theorem mem_keys_of_readInTurn {settings : IngestSettings} {reports : List (String × Entry)}
    {c : Collection} (h : readInTurn settings reports = .ok c) {x : String × Entry}
    (hx : x ∈ reports) {text : String} (htext : entryText x.2 = .ok text) {d : Document}
    (hd : parseDocument text = .ok d) {e : HostElement} (he : e ∈ d) : e.name ∈ c.hosts.keys := by
  have hcontents : text ∈ contents reports :=
    List.mem_filterMap.2 ⟨x, hx, by rw [htext]; rfl⟩
  have helements : e ∈ hostElements (contents reports) :=
    List.mem_flatMap.2 ⟨text, hcontents, by rw [hd]; exact he⟩
  rw [readInTurn] at h
  split at h
  · cases h
  · obtain rfl := Except.ok.inj h
    exact ((tallied_foldl settings _).ingested.keys_iff e.name).2 ⟨e, helements, rfl⟩

/-- The built-in settings with another extension. -/
def withExtension (extension : String) : Config :=
  { Config.default [] with ingest := ⟨extension, true⟩ }

/-- The setting is accepted, a report is spelled with it, and the report is not read. -/
structure Skips (extension e : String) : Prop where
  accepted : Config.validate (withExtension extension) = .ok (withExtension extension)
  spelled : Spells extension e
  found : (loneReport ("a" ++ "." ++ e)).at? ["scans", "a" ++ "." ++ e] =
    some (.text telnetReport)
  unread : ¬ ∃ front rest,
    (readPath (withExtension extension).ingest (loneReport ("a" ++ "." ++ e)) "scans").run.value =
      readInTurn (withExtension extension).ingest
        (front ++ ("scans/" ++ ("a" ++ "." ++ e), .text telnetReport) :: rest)

theorem reportsBelow_loneReport {extension name : String} (h : ¬ HasExtension extension name) :
    reportsBelow extension (loneReport name) "scans" ["scans"] = [] := by
  rw [← isReportName_iff, Bool.not_eq_true] at h
  simp [reportsBelow, FileTree.filesBelow, loneReport, List.isPrefixOf?, h]

/-- Whatever setting is accepted without being bare, there is a report that it skips. -/
theorem skips_of_not_bare {extension e : String} (haccepted : Config.isNotBare extension = false)
    (hspelled : Spells extension e) (hbare : ¬ Bare extension e) : Skips extension e where
  accepted := by
    have hdefault : Text.isBlankText (Config.default []).output.marker = false ∧
        Text.isBlankText (Config.default []).output.portscanQuery = false := by
      decide +kernel
    simp [Config.validate, withExtension, hdefault, haccepted]
  spelled := hspelled
  found := by simp [FileTree.at?, loneReport, List.lookup_cons]
  unread := by
    rintro ⟨front, rest, hread⟩
    have hname : ¬ HasExtension extension ("a" ++ "." ++ e) :=
      fun h => hbare ((hasExtension_iff (by decide) hspelled).1 h)
    have hnone : (readPath (withExtension extension).ingest (loneReport ("a" ++ "." ++ e))
        "scans").run.value = .ok .empty := by
      have hreports : reportsBelow (withExtension extension).ingest.extension
          (loneReport ("a" ++ "." ++ e)) "scans" ["scans"] = [] :=
        reportsBelow_loneReport hname
      rw [value_readPath _ (find_loneReport _), hreports]
      rfl
    have hdocument : parseDocument telnetReport =
        .ok [⟨"h", [⟨"23", "", "", "7", "", none, none⟩]⟩] := by
      decide +kernel
    have hhost := mem_keys_of_readInTurn (hread.symm.trans hnone)
      (List.mem_append_right front List.mem_cons_self) rfl hdocument List.mem_cons_self
    exact List.not_mem_nil hhost

/-- Two settings that are accepted, one with a dot and one with a space, and skip reports. -/
theorem accepted_extensions_skip_reports :
    Skips "tar.gz" "tar.gz" ∧ Skips " nessus" "nessus" := by
  constructor
  · exact skips_of_not_bare (by decide +kernel) (by decide +kernel) (by decide +kernel)
  · exact skips_of_not_bare (by decide +kernel) (by decide +kernel) (by decide +kernel)

end ScanQuery.Ingest
