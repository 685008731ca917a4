import ScanQuery.Proofs.Answers
import ScanQuery.Proofs.Fill.Pieces
import ScanQuery.Proofs.Rerendering
import ScanQuery.Proofs.Text.Lines

/-!
What markers become. A marker stands for a query: the one for port overviews where `portscan` occurs
in its body, and its body everywhere else. Where the query selects nothing the placeholder stands,
and elsewhere the answer as it is shown. Showing an answer brings its plugins into another order at
most, so whatever a marker becomes, its plugins are those of the findings that its query selects,
each once. In a built-in format every marker becomes something.
-/

namespace ScanQuery.Fill

/-- Whether the body of a marker asks a query: the one for port overviews where `portscan` occurs in
the body, and what the body says everywhere else. -/
def Asks (settings : OutputSettings) (body query : String) : Prop :=
  ("portscan".toList <:+: body.toList ∧ query = settings.portscanQuery) ∨
    (¬ "portscan".toList <:+: body.toList ∧ query = body)

/-- The findings that a marker selects. -/
def Source.selected (source : Source) (body : String) : List (Host × String × Finding) :=
  source.collection.selected (markerQuery source.settings body)

/-- The answer to a marker, before it is shown. -/
def Source.answer (source : Source) (body : String) : Matches :=
  runQuery source.time (markerQuery source.settings body) source.collection

/-- The plugin ids that a line covers: those of the findings that it selects as a marker. -/
def Source.idsOfLine (source : Source) (line : String) : List String :=
  match markerBody? source.settings line with
  | none => []
  | some body => (source.selected body).map (·.2.2.pluginId)

variable {source : Source} {settings : OutputSettings} {renderer : Renderer} {body line : String}

/-! ### What a marker stands for -/

theorem markerQuery_of_mention (h : "portscan".toList <:+: body.toList) :
    markerQuery settings body = settings.portscanQuery :=
  if_pos (Text.contains_iff.2 h)

theorem markerQuery_of_no_mention (h : ¬ "portscan".toList <:+: body.toList) :
    markerQuery settings body = body :=
  if_neg (Text.contains_iff.not.2 h)

/-- A marker asks one query, which is the one it is replaced by the answer to. -/
theorem asks_iff {query : String} :
    Asks settings body query ↔ query = markerQuery settings body := by
  by_cases hports : "portscan".toList <:+: body.toList
  · rw [markerQuery_of_mention hports, Asks]
    tauto
  · rw [markerQuery_of_no_mention hports, Asks]
    tauto

theorem markerBody?_eq_some_iff :
    markerBody? settings line = some body ↔
      ∃ rest, line = settings.marker ++ rest ∧ Text.trim rest = body := by
  rw [markerBody?, Option.map_eq_some_iff]
  simp only [Text.afterStart?_eq_some_iff]

/-- The placeholder is the marker with a message behind a space. -/
theorem placeholder_eq (settings : OutputSettings) :
    settings.placeholder = settings.marker ++ " " ++ "no hosts matched!!" := by
  rw [String.append_assoc]
  rfl

/-! ### One marker -/

theorem markerText_of_nothing (h : source.selected body = []) :
    markerText source renderer body = .ok (source.settings.placeholder, source.answer body) :=
  if_pos ((isEmpty_runQuery_iff ..).2 h)

/-- Where something is selected a marker becomes what its answer is shown as, and fails only where
this cannot be shown. -/
theorem markerText_of_something (h : source.selected body ≠ []) :
    markerText source renderer body =
      (((source.answer body).fetch renderer).1.mapError (.render body)).map fun output =>
        (output, ((source.answer body).fetch renderer).2) := by
  have hempty : (source.answer body).isEmpty = false := isEmpty_runQuery_eq_false _ _ _ h
  rw [Source.answer] at hempty ⊢
  refine (if_neg (ne_true_of_eq_false hempty)).trans ?_
  rcases (runQuery source.time (markerQuery source.settings body) source.collection).fetch renderer
    with ⟨cause | output, left⟩ <;> rfl

theorem markerText_of_fetch (h : source.selected body ≠ []) {output : String}
    (houtput : ((source.answer body).fetch renderer).1 = .ok output) :
    markerText source renderer body = .ok (output, ((source.answer body).fetch renderer).2) := by
  rw [markerText_of_something h, houtput]
  rfl

/-- Showing an answer loses no plugin, and neither does the placeholder. -/
theorem perm_plugins_markerText {x : String × Matches}
    (hx : markerText source renderer body = .ok x) :
    x.2.plugins.Perm (source.answer body).plugins := by
  by_cases hselected : source.selected body = []
  · rw [markerText_of_nothing hselected] at hx
    obtain rfl := Except.ok.inj hx
    exact .refl _
  · rw [markerText_of_something hselected, map_eq_ok_iff] at hx
    obtain ⟨output, -, rfl⟩ := hx
    exact ((source.answer body).frame_fetch renderer).2.2

theorem exists_markerText_builtin (source : Source) (f : Format) (body : String) :
    ∃ x, markerText source (.builtin f) body = .ok x := by
  by_cases hselected : source.selected body = []
  · exact ⟨_, markerText_of_nothing hselected⟩
  · obtain ⟨output, houtput⟩ := exists_fetch_builtin source.time _ source.collection f
    exact ⟨_, markerText_of_fetch hselected houtput⟩

/-! ### One line -/

theorem pieceOf_of_text (h : markerBody? source.settings line = none) :
    pieceOf source renderer line = .ok ⟨line ++ "\n", 0, []⟩ := by
  rw [pieceOf, h]

theorem pieceOf_of_marker (h : markerBody? source.settings line = some body)
    {x : String × Matches} (hx : markerText source renderer body = .ok x) :
    pieceOf source renderer line =
      .ok ⟨Text.dropFinalNewlines x.1 ++ "\n", 1, x.2.plugins⟩ := by
  simp only [pieceOf, h, hx]
  rfl

/-- A marker that selects nothing becomes the placeholder. -/
theorem pieceOf_of_nothing (h : markerBody? source.settings line = some body)
    (hselected : source.selected body = []) :
    pieceOf source renderer line = .ok ⟨source.settings.placeholder ++ "\n", 1, []⟩ := by
  have hplaceholder : Text.dropFinalNewlines source.settings.placeholder =
      source.settings.placeholder := by
    refine Text.dropFinalNewlines_of_getLast? ?_
    simp [placeholder_eq]
  have hplugins : (source.answer body).plugins = [] :=
    plugins_runQuery_of_selected_eq_nil _ _ _ hselected
  rw [pieceOf_of_marker h (markerText_of_nothing hselected), hplaceholder, hplugins]

theorem exists_pieceOf_builtin (source : Source) (f : Format) (line : String) :
    ∃ x, pieceOf source (.builtin f) line = .ok x := by
  cases hbody : markerBody? source.settings line with
  | none => exact ⟨_, pieceOf_of_text hbody⟩
  | some body =>
    obtain ⟨x, hx⟩ := exists_markerText_builtin source f body
    exact ⟨_, pieceOf_of_marker hbody hx⟩

/-- The plugins of a piece are those of the findings that its line selects. -/
theorem mem_ids_pieceOf_iff {x : Piece} (hx : pieceOf source renderer line = .ok x)
    {id : String} : id ∈ x.plugins.map (·.id) ↔ id ∈ source.idsOfLine line := by
  unfold Source.idsOfLine
  cases hbody : markerBody? source.settings line with
  | none =>
    rw [pieceOf_of_text hbody] at hx
    obtain rfl := Except.ok.inj hx
    rfl
  | some body =>
    simp only [pieceOf, hbody, map_eq_ok_iff] at hx
    obtain ⟨found, hfound, rfl⟩ := hx
    rw [((perm_plugins_markerText hfound).map _).mem_iff]
    exact mem_ids_runQuery_iff ..

/-! ### All lines -/

/-- In a built-in format all lines become something. -/
theorem exists_pieces_builtin (source : Source) (f : Format) (lines : List String) :
    ∃ pieces, lines.mapM (pieceOf source (.builtin f)) = .ok pieces := by
  induction lines with
  | nil => exact ⟨[], rfl⟩
  | cons line rest ih =>
    obtain ⟨x, hx⟩ := exists_pieceOf_builtin source f line
    obtain ⟨pieces, hpieces⟩ := ih
    exact ⟨x :: pieces, mapM_cons_eq_ok_iff.2 ⟨x, pieces, hx, hpieces, rfl⟩⟩

/-- The plugins of all pieces are those of the findings that some line selects. -/
theorem mem_ids_pieces_iff {lines : List String} {pieces : List Piece}
    (h : lines.mapM (pieceOf source renderer) = .ok pieces) {id : String} :
    id ∈ (pieces.flatMap (·.plugins)).map (·.id) ↔ id ∈ lines.flatMap source.idsOfLine := by
  induction lines generalizing pieces with
  | nil =>
    obtain rfl := Except.ok.inj h
    rfl
  | cons line rest ih =>
    obtain ⟨x, more, hx, hmore, rfl⟩ := mapM_cons_eq_ok_iff.1 h
    rw [List.flatMap_cons, List.flatMap_cons, List.map_append, List.mem_append, List.mem_append,
      mem_ids_pieceOf_iff hx, ih hmore]

end ScanQuery.Fill
