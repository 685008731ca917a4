import ScanQuery.Proofs.Fill.Composition

/-!
Filling a filled document. A filled document is ordinary lines, the answers shown in it, and the
placeholder where nothing matched. The placeholder begins with the marker, so filling again takes it
for one; but what stands behind the marker there has no operator, so it selects nothing and the
placeholder stands for itself, and it names no template, so it is no header on a first line.

Hence a text is filled with itself when its only lines with the marker are placeholders. A filled
document is such a text unless an answer has a line that begins with the marker: then this line is a
marker in turn.
-/

namespace ScanQuery.Fill

variable {source : Source} {settings : OutputSettings} {renderer : Renderer} {line text : String}

/-! ### The placeholder as a marker -/

theorem markerBody?_placeholder (settings : OutputSettings) :
    markerBody? settings settings.placeholder = some "no hosts matched!!" := by
  rw [placeholder_eq, String.append_assoc, markerBody?_append]
  exact congrArg some (by decide +kernel)

/-- What the placeholder says is a clause without an operator. -/
theorem selected_no_hosts_matched (source : Source) :
    source.selected "no hosts matched!!" = [] := by
  have hquery : markerQuery source.settings "no hosts matched!!" = "no hosts matched!!" :=
    markerQuery_of_no_mention (by decide)
  have hgroups : (Query.parse "no hosts matched!!").groups =
      [[⟨false, .unsupported .missingOperator, "no hosts matched!!"⟩]] := by
    decide +kernel
  rw [Source.selected, hquery, Collection.selected, List.filter_eq_nil_iff]
  intro x _
  simp [Query.selects, Query.holds, hgroups, Query.Clause.holds, Query.Condition.holds]

theorem not_namesTemplate_no_hosts_matched : ¬ NamesTemplate "no hosts matched!!" :=
  headerPaths_eq_none_iff.1 (by decide +kernel)

/-! ### Texts that are filled with themselves -/

/-- A line that filling leaves as it is: no marker, or the placeholder. -/
def Settled (settings : OutputSettings) (line : String) : Prop :=
  markerBody? settings line = none ∨ line = settings.placeholder

/-- A settled line is a marker exactly if it is the placeholder. -/
theorem Settled.isSome_markerBody?_iff (h : Settled settings line) :
    (markerBody? settings line).isSome ↔ line = settings.placeholder := by
  constructor
  · intro hmarker
    refine h.resolve_left fun hnone => ?_
    rw [hnone] at hmarker
    exact nomatch hmarker
  · rintro rfl
    rw [markerBody?_placeholder, Option.isSome_some]

/-- The step: a settled line becomes itself. -/
theorem pieceOf_of_settled (h : Settled source.settings line) :
    pieceOf source renderer line =
      .ok ⟨line ++ "\n", if line = source.settings.placeholder then 1 else 0, []⟩ := by
  by_cases hline : line = source.settings.placeholder
  · rw [if_pos hline, hline]
    exact pieceOf_of_nothing (markerBody?_placeholder _) (selected_no_hosts_matched source)
  · rw [if_neg hline]
    exact pieceOf_of_text (h.resolve_right hline)

/-- The run: settled lines become themselves, each ended. -/
theorem exists_pieces_of_settled {lines : List String}
    (h : ∀ line ∈ lines, Settled source.settings line) :
    ∃ pieces, lines.mapM (pieceOf source renderer) = .ok pieces ∧
      Progress.ofPieces 0 pieces = ⟨String.join (lines.map (· ++ "\n")), lines.length,
        lines.count source.settings.placeholder, []⟩ := by
  induction lines with
  | nil => exact ⟨[], rfl, rfl⟩
  | cons line rest ih =>
    obtain ⟨hline, hrest⟩ := List.forall_mem_cons.1 h
    obtain ⟨pieces, hpieces, hprogress⟩ := ih hrest
    refine ⟨_, mapM_cons_eq_ok_iff.2 ⟨_, pieces, pieceOf_of_settled hline, hpieces, rfl⟩, ?_⟩
    rw [← List.singleton_append, ofPieces_append, ofPieces_singleton, hprogress]
    · simp [Progress.append, List.count_cons, Nat.add_comm]
    · exact .nil

theorem plainStart_of_settled (h : ∀ line ∈ Text.lines text, Settled settings line) :
    PlainStart settings text := by
  intro body hfirst
  obtain ⟨line, hline, hbody⟩ := Option.bind_eq_some_iff.1 hfirst
  rcases h line (List.mem_of_mem_head? hline) with hnone | rfl
  · exact nomatch hnone.symm.trans hbody
  · rw [markerBody?_placeholder, Option.some.injEq] at hbody
    rw [← hbody]
    exact not_namesTemplate_no_hosts_matched

/-- What it means that filling leaves a text as it is and finds so many placeholders in it. -/
structure Refillable (settings : OutputSettings) (placeholders : Nat) (text : String) : Prop where
  ended : Text.Ended text
  settled : ∀ line ∈ Text.lines text, Settled settings line
  count_eq : (Text.lines text).count settings.placeholder = placeholders

theorem refillable_empty (settings : OutputSettings) : Refillable settings 0 "" where
  ended := .inl rfl
  settled := by simp [Text.lines_empty]
  count_eq := by simp [Text.lines_empty]

theorem Refillable.append {m n : Nat} {first second : String}
    (hfirst : Refillable settings m first) (hsecond : Refillable settings n second) :
    Refillable settings (m + n) (first ++ second) where
  ended := hfirst.ended.append hsecond.ended
  settled := by
    rw [Text.lines_append hfirst.ended]
    exact List.forall_mem_append.2 ⟨hfirst.settled, hsecond.settled⟩
  count_eq := by
    rw [Text.lines_append hfirst.ended, List.count_append, hfirst.count_eq, hsecond.count_eq]

/-- A text of settled lines is filled with itself, and its markers are the placeholders. -/
theorem render_of_refillable {placeholders : Nat} (hreturn : '\r' ∉ text.toList)
    (h : Refillable source.settings placeholders text) :
    (render source text).run.value =
      .ok ⟨text, (Text.lines text).length, placeholders, []⟩ := by
  obtain ⟨pieces, hpieces, hprogress⟩ := exists_pieces_of_settled h.settled
  rw [Text.join_lines h.ended hreturn, h.count_eq] at hprogress
  rw [value_render_of_plainStart source (plainStart_of_settled h.settled), map_eq_ok_iff]
  exact ⟨pieces, hpieces, hprogress⟩

/-! ### What a line becomes -/

/-- Whether a line is a marker that selects nothing. -/
def Source.isVacant (source : Source) (line : String) : Bool :=
  match markerBody? source.settings line with
  | none => false
  | some body => source.selected body = []

/-- The lines in which the answer to a line is shown, if it is a marker that selects something. -/
def Source.blockLines (source : Source) (renderer : Renderer) (line : String) : List String :=
  match markerBody? source.settings line with
  | none => []
  | some body =>
    if source.selected body = [] then []
    else
      match markerText source renderer body with
      | .ok x => Text.lines (Text.dropFinalNewlines x.1 ++ "\n")
      | .error _ => []

theorem refillable_ended (hfeed : '\n' ∉ line.toList) (hreturn : '\r' ∉ (line ++ "\n").toList)
    (h : Settled settings line) :
    Refillable settings (if line = settings.placeholder then 1 else 0) (line ++ "\n") := by
  have hlines : Text.lines (line ++ "\n") = [line] :=
    Text.lines_ended hfeed fun hmem => hreturn <| by
      rw [String.toList_append]
      exact List.mem_append_left _ hmem
  refine ⟨.inr ⟨line, rfl⟩, ?_, ?_⟩
  · rw [hlines]
    exact List.forall_mem_singleton.2 h
  · rw [hlines, List.count_singleton]
    simp only [beq_iff_eq]

/-- Lines that do not begin with the marker are settled, and no placeholder is among them. -/
theorem refillable_of_not_prefix (hended : Text.Ended text)
    (h : ∀ line ∈ Text.lines text, ¬ settings.marker.toList <+: line.toList) :
    Refillable settings 0 text where
  ended := hended
  settled := by
    intro line hline
    left
    exact markerBody?_of_not_prefix (h line hline)
  count_eq := by
    refine List.count_eq_zero.2 fun hplaceholder => h _ hplaceholder ?_
    rw [placeholder_eq, String.append_assoc, String.toList_append]
    exact List.prefix_append _ _

/-- The step: what a line becomes is settled, and a placeholder only for a marker that selects
nothing. -/
theorem refillable_pieceOf (hmarker : '\n' ∉ source.settings.marker.toList)
    (hfeed : '\n' ∉ line.toList)
    (hclear : ∀ shown ∈ source.blockLines renderer line,
      ¬ source.settings.marker.toList <+: shown.toList)
    {x : Piece} (hx : pieceOf source renderer line = .ok x) (hreturn : '\r' ∉ x.text.toList) :
    Refillable source.settings (if source.isVacant line then 1 else 0) x.text := by
  cases hbody : markerBody? source.settings line with
  | none =>
    -- a line that is no marker is copied, and cannot be the placeholder
    obtain rfl := Except.ok.inj ((pieceOf_of_text hbody).symm.trans hx)
    have hne : line ≠ source.settings.placeholder := by
      rintro rfl
      exact nomatch hbody.symm.trans (markerBody?_placeholder _)
    have hline := refillable_ended hfeed hreturn (.inl hbody)
    rw [if_neg hne] at hline
    simpa [Source.isVacant, hbody] using hline
  | some body =>
    by_cases hselected : source.selected body = []
    · obtain rfl := Except.ok.inj ((pieceOf_of_nothing hbody hselected).symm.trans hx)
      have hplaceholder : '\n' ∉ source.settings.placeholder.toList := by
        rw [placeholder_eq, String.append_assoc, String.toList_append, List.mem_append, not_or]
        exact ⟨hmarker, by decide⟩
      have hline := refillable_ended hplaceholder hreturn (.inr rfl)
      rw [if_pos rfl] at hline
      simpa [Source.isVacant, hbody, hselected] using hline
    -- of an answer nothing is known but that its lines do not begin with the marker
    · simp only [pieceOf, hbody, map_eq_ok_iff] at hx
      obtain ⟨found, hfound, rfl⟩ := hx
      have hblock : source.blockLines renderer line =
          Text.lines (Text.dropFinalNewlines found.1 ++ "\n") := by
        simp only [Source.blockLines, hbody, if_neg hselected, hfound]
      rw [hblock] at hclear
      have hshown := refillable_of_not_prefix (.inr ⟨_, rfl⟩) hclear
      simpa [Source.isVacant, hbody, hselected] using hshown

/-- The run: what all lines become is settled. -/
theorem refillable_pieces (hmarker : '\n' ∉ source.settings.marker.toList) {lines : List String}
    (hfeeds : ∀ line ∈ lines, '\n' ∉ line.toList)
    (hclear : ∀ line ∈ lines, ∀ shown ∈ source.blockLines renderer line,
      ¬ source.settings.marker.toList <+: shown.toList)
    {pieces : List Piece} (h : lines.mapM (pieceOf source renderer) = .ok pieces)
    (hreturn : '\r' ∉ (String.join (pieces.map (·.text))).toList) :
    Refillable source.settings (lines.countP source.isVacant)
      (String.join (pieces.map (·.text))) := by
  induction lines generalizing pieces with
  | nil =>
    obtain rfl := Except.ok.inj h
    exact refillable_empty _
  | cons line rest ih =>
    obtain ⟨x, more, hx, hmore, rfl⟩ := mapM_cons_eq_ok_iff.1 h
    obtain ⟨hfeed, hfeeds⟩ := List.forall_mem_cons.1 hfeeds
    obtain ⟨hclear, hclears⟩ := List.forall_mem_cons.1 hclear
    rw [List.map_cons, String.join_cons, String.toList_append, List.mem_append, not_or] at hreturn
    rw [List.map_cons, String.join_cons, List.countP_cons, Nat.add_comm]
    exact (refillable_pieceOf hmarker hfeed hclear hx hreturn.1).append
      (ih hfeeds hclears hmore hreturn.2)

/-! ### Documents -/

/-- Whether no line of an answer in a document begins with the marker. -/
def ClearBlocks (source : Source) (document : String) : Prop :=
  ∀ line ∈ contentLines source.settings document,
    ∀ shown ∈ source.blockLines (source.rendererOf document) line,
      ¬ source.settings.marker.toList <+: shown.toList

instance (source : Source) (document : String) : Decidable (ClearBlocks source document) :=
  inferInstanceAs (Decidable (∀ _ ∈ _, ∀ _ ∈ _, _))

theorem feed_not_mem_of_mem_contentLines {document : String}
    (h : line ∈ contentLines settings document) : '\n' ∉ line.toList := by
  rw [contentLines] at h
  split at h
  · exact Text.feed_not_mem_of_mem_lines h
  · exact Text.feed_not_mem_of_mem_lines (List.mem_of_mem_drop h)

/-- A filled document that is filled again stays as it is, from whatever it is filled: its markers
are the placeholders, which stand where a marker of the document selected nothing. -/
theorem refill_unchanged {source again : Source} (hsettings : again.settings = source.settings)
    (hmarker : '\n' ∉ source.settings.marker.toList) {document : String} {p : Progress}
    (hp : (render source document).run.value = .ok p) (hreturn : '\r' ∉ p.text.toList)
    (hclear : ClearBlocks source document) :
    (render again p.text).run.value = .ok ⟨p.text, (Text.lines p.text).length,
        (Text.lines p.text).count source.settings.placeholder, []⟩ ∧
      (∀ line ∈ Text.lines p.text, (markerBody? source.settings line).isSome ↔
        line = source.settings.placeholder) ∧
      (Text.lines p.text).count source.settings.placeholder =
        (contentLines source.settings document).countP source.isVacant := by
  obtain ⟨header, pieces, hpieces, rfl⟩ := exists_pieces_of_render source hp
  have hfeeds : ∀ line ∈ contentLines source.settings document, '\n' ∉ line.toList :=
    fun _ hline => feed_not_mem_of_mem_contentLines hline
  have hrefillable : Refillable source.settings _ (Progress.ofPieces header pieces).text :=
    refillable_pieces hmarker hfeeds hclear hpieces hreturn
  refine ⟨?_, fun line hline => (hrefillable.settled line hline).isSome_markerBody?_iff,
    hrefillable.count_eq⟩
  rw [hrefillable.count_eq]
  exact render_of_refillable hreturn (hsettings ▸ hrefillable)

/-- A document with a marker that selects nothing on its first line and one that shows an answer. -/
def refilledDocument : String :=
  "%%%NESSQ:port=24\nTelnet:\n%%%NESSQ:port=23\n"

/-- What it is filled from at another time. -/
def laterSource : Source :=
  { telnetSource with time := "2000-01-01 00:00:00" }

/-- The filled document is filled again with itself, with one marker left in it. -/
theorem refill_telnet_document :
    ∃ p, (render telnetSource refilledDocument).run.value = .ok p ∧
      (render laterSource p.text).run.value =
        .ok ⟨p.text, (Text.lines p.text).length, 1, []⟩ := by
  have hsettings : laterSource.settings = telnetSource.settings := rfl
  have hfilled : (render telnetSource refilledDocument).run.value.map
      (fun p => decide ('\r' ∈ p.text.toList)) = .ok false := by
    decide +kernel
  obtain ⟨p, hp, hreturn⟩ := map_eq_ok_iff.1 hfilled
  have hclear : ClearBlocks telnetSource refilledDocument := by decide +kernel
  obtain ⟨hagain, -, hcount⟩ :=
    refill_unchanged hsettings (by decide) hp (of_decide_eq_false hreturn) hclear
  have hone : (contentLines telnetSource.settings refilledDocument).countP
      telnetSource.isVacant = 1 := by
    decide +kernel
  rw [hcount, hone] at hagain
  exact ⟨p, hp, hagain⟩

end ScanQuery.Fill
