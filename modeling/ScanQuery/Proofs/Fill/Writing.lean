import ScanQuery.Proofs.FileTree
import ScanQuery.Proofs.Fill.Pieces

/-!
Documents are written whole. Whatever goes wrong before the document is filled, in its header or at
one of its markers, is told apart from what goes wrong when it is written, so a fault in writing is
a sign that there was a filled document; and a document that is written leaves the filled text
under its path and everything else as it was.
-/

namespace ScanQuery

namespace Fill

/-- Whether a document is filled and cannot be written. -/
def Error.IsWriting : Error → Prop
  | writeOutput _ _ => True
  | _ => False

/-! ### Faults before the document is filled -/

theorem not_isWriting_header {files : FileTree} {body : String} {e : Error}
    (h : (header files body).run.value = .error e) : ¬ e.IsWriting := by
  unfold header at h
  split at h
  · cases h
  · cases h
    exact not_false
  · cases h
    exact not_false
  · simp only [Log.Logged.value_run_bind] at h
    rcases bind_eq_error_iff.1 h with h | ⟨_, -, h⟩
    · cases h
    · split at h
      · cases h
      · cases h
        exact not_false

theorem not_isWriting_pieceOf {source : Source} {renderer : Renderer} {line : String} {e : Error}
    (h : pieceOf source renderer line = .error e) : ¬ e.IsWriting := by
  unfold pieceOf at h
  split at h
  · cases h
  · next body _ =>
    rw [map_eq_error_iff, markerText] at h
    split_ifs at h
    split at h
    · cases h
    · cases h
      exact not_false

/-- No marker fails as writing does, wherever in the document it stands. -/
theorem not_isWriting_render {source : Source} {document : String} {e : Error}
    (h : (render source document).run.value = .error e) : ¬ e.IsWriting := by
  rw [value_render, bind_eq_error_iff] at h
  rcases h with h | ⟨custom, -, h⟩
  · cases hfirst : (Text.lines document).head?.bind (markerBody? source.settings) with
    | none =>
      rw [hfirst] at h
      cases h
    | some body =>
      rw [hfirst] at h
      exact not_isWriting_header h
  · cases custom with
    | none =>
      obtain ⟨_, -, hline⟩ := exists_error_of_mapM (map_eq_error_iff.1 h)
      exact not_isWriting_pieceOf hline
    | some t =>
      obtain ⟨_, -, hline⟩ := exists_error_of_mapM (map_eq_error_iff.1 h)
      exact not_isWriting_pieceOf hline

/-! ### Written documents -/

/-- The outcome of a document that is filled and written. -/
def Progress.outcome (p : Progress) (source : Source) (output : String) : Outcome :=
  ⟨output, p.lines, p.markers, p.plugins, uncovered source p⟩

/-- A document that can be read is filled, and then written. -/
theorem value_write_of_read {source : Source} {template output document : String}
    (hfile : source.files.isFile template = true)
    (hread : source.files.read template = .ok document) :
    (write source template output).run.value =
      (render source document).run.value >>= fun p =>
        ((source.files.write output p.text).mapError (.writeOutput output)).map fun files =>
          (p.outcome source output, files) := by
  simp only [write, hfile, hread, Bool.not_true, Bool.false_eq_true, if_false, pure_bind,
    Log.Logged.value_run_bind]
  refine bind_congr fun p => ?_
  cases source.files.write output p.text with
  | error cause => rfl
  | ok files => cases (uncovered source p).isEmpty <;> rfl

/-- What fails before there is a document does not fail in writing. -/
theorem exists_error_of_not_read {source : Source} {template : String} (output : String)
    (h : ¬ ∃ document, source.files.isFile template = true ∧
      source.files.read template = .ok document) :
    ∃ e, (write source template output).run.value = .error e ∧ ¬ e.IsWriting := by
  cases hfile : source.files.isFile template with
  | false =>
    simp only [write, hfile]
    exact ⟨.templateNotFound template, rfl, not_false⟩
  | true =>
    cases hread : source.files.read template with
    | error cause =>
      simp only [write, hfile, hread]
      exact ⟨.readTemplate template cause, rfl, not_false⟩
    | ok document => exact absurd ⟨document, hfile, hread⟩ h

/-- Whatever is written, or would be if it could, is a filled document. -/
theorem exists_filled_of_attempt {source : Source} {template output : String}
    (h : ∀ e, (write source template output).run.value = .error e → e.IsWriting) :
    ∃ document p, source.files.read template = .ok document ∧
      (render source document).run.value = .ok p ∧
        (write source template output).run.value =
          ((source.files.write output p.text).mapError (.writeOutput output)).map fun files =>
            (p.outcome source output, files) := by
  by_cases hdocument : ∃ document, source.files.isFile template = true ∧
      source.files.read template = .ok document
  · obtain ⟨document, hfile, hread⟩ := hdocument
    have hwrite : (write source template output).run.value = _ := value_write_of_read hfile hread
    cases hp : (render source document).run.value with
    | error e =>
      rw [hp] at hwrite
      exact absurd (h e hwrite) (not_isWriting_render hp)
    | ok p =>
      rw [hp] at hwrite
      exact ⟨document, p, hread, hp, hwrite⟩
  · obtain ⟨e, herror, hnot⟩ := exists_error_of_not_read output hdocument
    exact absurd (h e herror) hnot

/-- What is written was read and filled, and its text is what was written. -/
theorem exists_filled_of_write {source : Source} {template output : String} {o : Outcome}
    {files : FileTree} (h : (write source template output).run.value = .ok (o, files)) :
    ∃ document p, source.files.read template = .ok document ∧
      (render source document).run.value = .ok p ∧ o = p.outcome source output ∧
        source.files.write output p.text = .ok files := by
  have hattempt : ∀ e, (write source template output).run.value = .error e → e.IsWriting :=
    fun e he => nomatch he.symm.trans h
  obtain ⟨document, p, hread, hp, hwrite⟩ := exists_filled_of_attempt hattempt
  obtain ⟨written, hwritten, hpair⟩ := map_eq_ok_iff.1 (hwrite.symm.trans h)
  obtain ⟨rfl, rfl⟩ := Prod.mk.inj hpair
  exact ⟨document, p, hread, hp, rfl, mapError_eq_ok_iff.1 hwritten⟩

/-- What is reported of a document that is written is what it was filled with. -/
theorem exists_render_of_write {source : Source} {template output : String} {o : Outcome}
    {files : FileTree} (h : (write source template output).run.value = .ok (o, files)) :
    ∃ document p, source.files.read template = .ok document ∧
      (render source document).run.value = .ok p ∧ o = p.outcome source output := by
  obtain ⟨document, p, hread, hp, ho, -⟩ := exists_filled_of_write h
  exact ⟨document, p, hread, hp, ho⟩

/-- A tree in which a document has been written: the file under the path holds all of the filled
text, and what stands elsewhere has not changed. -/
structure Written (source : Source) (output : String) (p : Progress) (files : FileTree) :
    Prop where
  holds : files.read output = .ok p.text
  elsewhere : ∃ place, source.files.target output = .ok place ∧
    ∀ q ≠ place, files.at? q = source.files.at? q

/-- Writing comes last: a fault in writing means that the document is filled, and a document that
is written leaves its filled text. -/
structure WritesFilled (source : Source) (template output : String) : Prop where
  attempted : ∀ path cause,
    (write source template output).run.value = .error (.writeOutput path cause) →
    ∃ document p, source.files.read template = .ok document ∧
      (render source document).run.value = .ok p
  written : ∀ outcome files, (write source template output).run.value = .ok (outcome, files) →
    ∃ document p, source.files.read template = .ok document ∧
      (render source document).run.value = .ok p ∧ Written source output p files

theorem writesFilled (source : Source) (template output : String) :
    WritesFilled source template output := by
  constructor
  · intro path cause hvalue
    have hattempt : ∀ e, (write source template output).run.value = .error e → e.IsWriting :=
      fun e he => Except.error.inj (he.symm.trans hvalue) ▸ trivial
    obtain ⟨document, p, hread, hp, -⟩ := exists_filled_of_attempt hattempt
    exact ⟨document, p, hread, hp⟩
  · intro outcome files hvalue
    obtain ⟨document, p, hread, hp, -, hwritten⟩ := exists_filled_of_write hvalue
    exact ⟨document, p, hread, hp, FileTree.read_write hwritten, FileTree.at?_write hwritten⟩

end Fill

end ScanQuery
