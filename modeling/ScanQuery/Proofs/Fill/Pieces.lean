import Mathlib
import ScanQuery.Fill
import ScanQuery.Proofs.PluginLists

/-!
Filling a document piece by piece. What a line becomes depends on the line alone and not on what
has been filled before it: a text, a marker or none, and the plugins that are shown. The progress of
a document is therefore the list of its pieces put together: texts one behind the other, numbers
added up, and of the plugins the first of each id. Filling fails where the first line fails that
does, or before all lines, in the header.
-/

namespace ScanQuery

/-! ### Computations that may fail -/

section Failing

variable {ε α β : Type}

theorem bind_eq_ok_iff {x : Except ε α} {f : α → Except ε β} {b : β} :
    x >>= f = .ok b ↔ ∃ a, x = .ok a ∧ f a = .ok b := by
  cases x <;> simp [bind, Except.bind]

theorem map_eq_ok_iff {x : Except ε α} {f : α → β} {b : β} :
    x.map f = .ok b ↔ ∃ a, x = .ok a ∧ f a = b := by
  cases x <;> simp [Except.map]

theorem mapM_cons_eq_ok_iff {f : α → Except ε β} {a : α} {l : List α} {bs : List β} :
    (a :: l).mapM f = .ok bs ↔ ∃ b rest, f a = .ok b ∧ l.mapM f = .ok rest ∧ b :: rest = bs := by
  simp only [List.mapM_cons, bind_eq_ok_iff, exists_and_left]
  simp only [pure, Except.pure, Except.ok.injEq]

theorem mapError_eq_ok_iff {ε' : Type} {x : Except ε α} {g : ε → ε'} {a : α} :
    x.mapError g = .ok a ↔ x = .ok a := by
  cases x <;> simp [Except.mapError]

theorem bind_eq_error_iff {x : Except ε α} {f : α → Except ε β} {e : ε} :
    x >>= f = .error e ↔ x = .error e ∨ ∃ a, x = .ok a ∧ f a = .error e := by
  cases x <;> simp [bind, Except.bind]

theorem map_eq_error_iff {x : Except ε α} {f : α → β} {e : ε} :
    x.map f = .error e ↔ x = .error e := by
  cases x <;> simp [Except.map]

/-- What fails along a list fails at one of its elements. -/
theorem exists_error_of_mapM {f : α → Except ε β} {e : ε} :
    ∀ {l : List α}, l.mapM f = .error e → ∃ a ∈ l, f a = .error e
  | [], h => by simp [pure, Except.pure] at h
  | a :: l, h => by
    rw [List.mapM_cons, bind_eq_error_iff] at h
    rcases h with h | ⟨b, -, h⟩
    · exact ⟨a, List.mem_cons_self, h⟩
    · rcases bind_eq_error_iff.1 h with h | ⟨bs, -, h⟩
      · obtain ⟨a', ha', herror⟩ := exists_error_of_mapM h
        exact ⟨a', List.mem_cons_of_mem a ha', herror⟩
      · simp [pure, Except.pure] at h

end Failing

namespace Fill

/-- What a line of a document becomes. -/
structure Piece where
  text : String
  markers : Nat
  plugins : List Plugin

/-- What a line becomes on its own. -/
def pieceOf (source : Source) (renderer : Renderer) (line : String) : Except Error Piece :=
  match markerBody? source.settings line with
  | none => .ok ⟨line ++ "\n", 0, []⟩
  | some body =>
    (markerText source renderer body).map fun x =>
      ⟨Text.dropFinalNewlines x.1 ++ "\n", 1, x.2.plugins⟩

/-- The progress of some pieces behind as many lines of a header. -/
def Progress.ofPieces (header : Nat) (pieces : List Piece) : Progress where
  text := String.join (pieces.map (·.text))
  lines := header + pieces.length
  markers := (pieces.map (·.markers)).sum
  plugins := firstBy (·.id) (pieces.flatMap (·.plugins))

variable (source : Source) (renderer : Renderer)

/-! ### Lines -/

theorem ofPieces_concat (header : Nat) (pieces : List Piece) (x : Piece) :
    Progress.ofPieces header (pieces ++ [x]) =
      ⟨(Progress.ofPieces header pieces).text ++ x.text,
        (Progress.ofPieces header pieces).lines + 1,
        (Progress.ofPieces header pieces).markers + x.markers,
        x.plugins.foldl Plugin.addNew (Progress.ofPieces header pieces).plugins⟩ := by
  simp only [Progress.ofPieces, Progress.mk.injEq, List.map_append, List.map_cons, List.map_nil,
    List.length_append, List.length_cons, List.length_nil, List.sum_append, List.sum_cons,
    List.sum_nil, List.flatMap_append, List.flatMap_cons, List.flatMap_nil, List.append_nil,
    Plugin.foldl_addNew_firstBy, Nat.add_zero, Nat.zero_add, Nat.add_assoc, and_true]
  simp [String.join_append]

/-- The step: a line adds the piece that it becomes. -/
theorem value_addLine (header : Nat) (pieces : List Piece) (line : String) :
    (addLine source renderer (.ofPieces header pieces) line).run.value =
      (pieceOf source renderer line).map fun x => .ofPieces header (pieces ++ [x]) := by
  unfold addLine pieceOf
  cases markerBody? source.settings line with
  | none =>
    simp only [Log.Logged.value_run_pure, Except.map, ofPieces_concat, List.foldl_nil,
      Nat.add_zero, String.append_assoc]
  | some body =>
    simp only [Log.Logged.value_run_bind, Log.Logged.value_run_pure, ofPieces_concat]
    show (markerText source renderer body >>= _) = _
    cases markerText source renderer body with
    | error cause => rfl
    | ok x => simp only [Except.map, String.append_assoc]; rfl

/-- The run: lines add the pieces that they become, if all of them become any. -/
theorem value_foldlM_addLine (header : Nat) (pieces : List Piece) (lines : List String) :
    (lines.foldlM (addLine source renderer) (.ofPieces header pieces)).run.value =
      (lines.mapM (pieceOf source renderer)).map fun more =>
        .ofPieces header (pieces ++ more) := by
  induction lines generalizing pieces with
  | nil =>
    rw [List.foldlM_nil, List.mapM_nil, Log.Logged.value_run_pure]
    show Except.ok (Progress.ofPieces header pieces) =
      .ok (Progress.ofPieces header (pieces ++ []))
    rw [List.append_nil]
  | cons line rest ih =>
    rw [List.foldlM_cons, Log.Logged.value_run_bind, value_addLine, List.mapM_cons]
    cases pieceOf source renderer line with
    | error cause => rfl
    | ok x =>
      show (rest.foldlM (addLine source renderer)
        (Progress.ofPieces header (pieces ++ [x]))).run.value = _
      rw [ih]
      cases rest.mapM (pieceOf source renderer) with
      | error cause => rfl
      | ok more =>
        show Except.ok (Progress.ofPieces header (pieces ++ [x] ++ more)) =
          .ok (Progress.ofPieces header (pieces ++ x :: more))
        rw [List.append_assoc, List.singleton_append]

/-! ### The header -/

/-- Whether the body of a marker names a template, for lists or for tables. -/
def NamesTemplate (body : String) : Prop :=
  ∃ part ∈ Text.split "," body, ∃ key path, Text.splitOnce? "=" part = some (key, path) ∧
    (Text.trim key = "list" ∨ Text.trim key = "table")

/-- Whether the first line of a document is no marker that names a template. -/
def PlainStart (settings : OutputSettings) (document : String) : Prop :=
  ∀ body, (Text.lines document).head?.bind (markerBody? settings) = some body →
    ¬ NamesTemplate body

/-- The lines of a document that are copied or replaced: all but a header. -/
def contentLines (settings : OutputSettings) (document : String) : List String :=
  if headerFiles settings document = [] then Text.lines document
  else (Text.lines document).drop 1

theorem headerPath?_eq_none_iff {name : String} {parts : List String} :
    headerPath? name parts = none ↔
      ∀ part ∈ parts, ∀ key path, Text.splitOnce? "=" part = some (key, path) →
        Text.trim key ≠ name := by
  rw [headerPath?, List.getLast?_eq_none_iff, List.filterMap_eq_nil_iff]
  refine forall₂_congr fun part _ => ?_
  cases Text.splitOnce? "=" part with
  | none => simp
  | some cut =>
    obtain ⟨key, path⟩ := cut
    by_cases hkey : Text.trim key = name <;> simp [hkey]

theorem headerPaths_eq_none_iff {body : String} :
    headerPaths body = (none, none) ↔ ¬ NamesTemplate body := by
  rw [headerPaths, Prod.mk.injEq, headerPath?_eq_none_iff, headerPath?_eq_none_iff]
  constructor
  · rintro ⟨hlist, htable⟩ ⟨part, hpart, key, path, hcut, hname | hname⟩
    · exact hlist part hpart key path hcut hname
    · exact htable part hpart key path hcut hname
  · intro hnames
    constructor
    · intro part hpart key path hcut hname
      exact hnames ⟨part, hpart, key, path, hcut, .inl hname⟩
    · intro part hpart key path hcut hname
      exact hnames ⟨part, hpart, key, path, hcut, .inr hname⟩

theorem headerFiles_eq_nil_iff {settings : OutputSettings} {document : String} :
    headerFiles settings document = [] ↔ PlainStart settings document := by
  unfold headerFiles PlainStart
  cases (Text.lines document).head?.bind (markerBody? settings) with
  | none => simp
  | some body =>
    simp only [Option.some.injEq, forall_eq', ← headerPaths_eq_none_iff]
    rcases headerPaths body with ⟨_ | list, _ | table⟩ <;> simp

/-- A marker that names no template is no header. -/
theorem value_header_of_not_names (files : FileTree) {body : String}
    (h : ¬ NamesTemplate body) : (header files body).run.value = .ok none := by
  rw [header, headerPaths_eq_none_iff.2 h]
  rfl

/-- A marker that names a template is a header or a fault. -/
theorem value_header_of_names (files : FileTree) {body : String} (h : NamesTemplate body) :
    (∃ t, (header files body).run.value = .ok (some t)) ∨
      ∃ fault, (header files body).run.value = .error fault := by
  have hpaths : headerPaths body ≠ (none, none) := fun hnone => headerPaths_eq_none_iff.1 hnone h
  unfold header
  rcases hcases : headerPaths body with ⟨_ | list, _ | table⟩
  · exact absurd hcases hpaths
  · exact .inr ⟨.missingList, rfl⟩
  · exact .inr ⟨.missingTable, rfl⟩
  · simp only [Log.Logged.value_run_bind]
    cases CustomTemplate.loadByLayout files list table with
    | ok t => exact .inl ⟨t, rfl⟩
    | error cause => exact .inr ⟨.customTemplate cause, rfl⟩

/-! ### Documents -/

theorem value_lines (header : Nat) (lines : List String) :
    (lines.foldlM (addLine source renderer) ⟨"", header, 0, []⟩).run.value =
      (lines.mapM (pieceOf source renderer)).map (.ofPieces header) :=
  value_foldlM_addLine source renderer header [] lines

/-- The header decides what the lines are filled with, and whether the first of them is one. -/
theorem value_render (document : String) :
    (render source document).run.value =
      (match (Text.lines document).head?.bind (markerBody? source.settings) with
        | some body => (header source.files body).run.value
        | none => .ok none) >>= fun custom =>
      match custom with
      | some t =>
        (((Text.lines document).drop 1).mapM (pieceOf source (.custom t))).map (.ofPieces 1)
      | none =>
        ((Text.lines document).mapM (pieceOf source (.builtin .auto))).map (.ofPieces 0) := by
  simp only [render]
  cases (Text.lines document).head?.bind (markerBody? source.settings) with
  | none => exact value_lines source (.builtin .auto) 0 _
  | some body =>
    simp only [Log.Logged.value_run_bind]
    refine bind_congr fun custom => ?_
    cases custom with
    | none => exact value_lines source (.builtin .auto) 0 _
    | some t => exact value_lines source (.custom t) 1 _

/-- A document that begins plainly is filled line by line in the format that follows the layout. -/
theorem value_render_of_plainStart {document : String}
    (hplain : PlainStart source.settings document) :
    (render source document).run.value =
      ((Text.lines document).mapM (pieceOf source (.builtin .auto))).map (.ofPieces 0) := by
  rw [value_render]
  cases hfirst : (Text.lines document).head?.bind (markerBody? source.settings) with
  | none => rfl
  | some body =>
    simp only [value_header_of_not_names source.files (hplain body hfirst)]
    rfl

/-- How the answers in a document are shown: by the templates of its header, if there is one. -/
def Source.rendererOf (source : Source) (document : String) : Renderer :=
  match (Text.lines document).head?.bind (markerBody? source.settings) with
  | none => .builtin .auto
  | some body =>
    match (header source.files body).run.value with
    | .ok (some t) => .custom t
    | _ => .builtin .auto

theorem rendererOf_of_plainStart {document : String}
    (hplain : PlainStart source.settings document) :
    source.rendererOf document = .builtin .auto := by
  unfold Source.rendererOf
  cases hfirst : (Text.lines document).head?.bind (markerBody? source.settings) with
  | none => rfl
  | some body => simp only [value_header_of_not_names source.files (hplain body hfirst)]

/-- A document that is filled is filled line by line, in one way for all lines. -/
theorem exists_pieces_of_render {document : String} {p : Progress}
    (hp : (render source document).run.value = .ok p) :
    ∃ header pieces, (contentLines source.settings document).mapM
        (pieceOf source (source.rendererOf document)) = .ok pieces ∧
      p = .ofPieces header pieces := by
  by_cases hplain : PlainStart source.settings document
  · rw [value_render_of_plainStart source hplain, map_eq_ok_iff] at hp
    rw [contentLines, if_pos (headerFiles_eq_nil_iff.2 hplain),
      rendererOf_of_plainStart source hplain]
    obtain ⟨pieces, hpieces, rfl⟩ := hp
    exact ⟨0, pieces, hpieces, rfl⟩
  · rw [contentLines, if_neg fun hnil => hplain (headerFiles_eq_nil_iff.1 hnil)]
    unfold PlainStart at hplain
    push Not at hplain
    obtain ⟨body, hfirst, hnames⟩ := hplain
    rw [value_render, hfirst, bind_eq_ok_iff] at hp
    obtain ⟨custom, hcustom, hlines⟩ := hp
    rcases value_header_of_names source.files hnames with ⟨t, ht⟩ | ⟨fault, hfault⟩
    · obtain rfl := Except.ok.inj (ht.symm.trans hcustom)
      obtain ⟨pieces, hpieces, rfl⟩ := map_eq_ok_iff.1 hlines
      have hrenderer : source.rendererOf document = .custom t := by
        simp only [Source.rendererOf, hfirst, ht]
      exact ⟨1, pieces, hrenderer ▸ hpieces, rfl⟩
    · exact nomatch hfault.symm.trans hcustom

end Fill

end ScanQuery
