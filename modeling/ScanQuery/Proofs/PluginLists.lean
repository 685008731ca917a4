import ScanQuery.Proofs.FirstSeen
import ScanQuery.Proofs.Sorting

/-!
Lists of plugins. Sorting by severity is stable: within a level the plugins keep their order, so a
sorted list is its levels one behind the other. A list that grows by new plugins only has each id
once, and growing one list by what another one grew by is the same as merging the two: what comes
in behind a list is the same whether or not the list is there, but for the ids that it has.
-/

namespace ScanQuery.Plugin

/-! ### Sorting by severity -/

theorem severity_trans (a b c : Plugin) (hab : decide (b.severity ≤ a.severity))
    (hbc : decide (c.severity ≤ b.severity)) : decide (c.severity ≤ a.severity) := by
  simp only [decide_eq_true_eq] at hab hbc ⊢
  exact Nat.le_trans hbc hab

theorem severity_total (a b : Plugin) :
    (decide (b.severity ≤ a.severity) || decide (a.severity ≤ b.severity)) = true := by
  simp only [Bool.or_eq_true, decide_eq_true_eq]
  exact Nat.le_total b.severity.ordinal a.severity.ordinal

theorem sortBySeverity_perm (plugins : List Plugin) : (sortBySeverity plugins).Perm plugins :=
  List.mergeSort_perm ..

theorem sortBySeverity_sortBySeverity (plugins : List Plugin) :
    sortBySeverity (sortBySeverity plugins) = sortBySeverity plugins :=
  List.mergeSort_of_pairwise (List.pairwise_mergeSort severity_trans severity_total plugins)

theorem pairwise_sortBySeverity (plugins : List Plugin) :
    (sortBySeverity plugins).Pairwise fun a b => b.severity ≤ a.severity :=
  (List.pairwise_mergeSort severity_trans severity_total plugins).imp fun h => of_decide_eq_true h

/-- The plugins of one level keep their order. -/
theorem filter_sortBySeverity (plugins : List Plugin) (level : Severity) :
    (sortBySeverity plugins).filter (·.severity = level) =
      plugins.filter (·.severity = level) := by
  have hlevel : (plugins.filter (·.severity = level)).Pairwise
      fun a b => decide (b.severity ≤ a.severity) = true := by
    refine List.pairwise_of_forall_mem_list fun a ha b hb => ?_
    simp only [List.mem_filter, decide_eq_true_eq] at ha hb ⊢
    rw [ha.2, hb.2]
    exact Nat.le_refl level.ordinal
  -- the level is sorted as it stands, so it is found in the sorted list
  have hsub : (plugins.filter (·.severity = level)).Sublist (sortBySeverity plugins) :=
    List.sublist_mergeSort severity_trans severity_total hlevel List.filter_sublist
  have hsub' := hsub.filter (·.severity = level)
  rw [List.filter_filter] at hsub'
  simp only [Bool.and_self] at hsub'
  refine (hsub'.eq_of_length ?_).symm
  exact ((sortBySeverity_perm plugins).filter _).length_eq.symm

/-! ### Levels -/

/-- A list in which nothing that passes a test stands behind what does not is what passes, and
behind it the rest. -/
theorem filter_append_filter_not {α : Type} {test : α → Bool} {l : List α}
    (h : l.Pairwise fun a b => test b → test a) :
    l.filter test ++ l.filter (fun a => !test a) = l := by
  induction l with
  | nil => rfl
  | cons a rest ih =>
    obtain ⟨ha, hrest⟩ := List.pairwise_cons.1 h
    cases htest : test a with
    | true => rw [List.filter_cons_of_pos htest, List.filter_cons_of_neg (by simp [htest]),
        List.cons_append, ih hrest]
    | false =>
      have hfails : ∀ b ∈ (a :: rest), test b = false := by
        intro b hb
        rcases List.mem_cons.1 hb with rfl | hb
        · exact htest
        · exact Bool.eq_false_iff.2 fun hpass => Bool.eq_false_iff.1 htest (ha b hb hpass)
      rw [List.filter_eq_nil_iff.2 fun b hb => Bool.eq_false_iff.1 (hfails b hb),
        List.filter_eq_self.2 fun b hb => by rw [hfails b hb]; rfl, List.nil_append]

/-- A list in descending order is its levels one behind the other, the highest first. -/
theorem flatMap_filter_of_pairwise {levels : List Severity}
    (hlevels : levels.Pairwise fun a b => ¬ a ≤ b) {plugins : List Plugin}
    (h : plugins.Pairwise fun a b => b.severity ≤ a.severity)
    (hmem : ∀ p ∈ plugins, p.severity ∈ levels) :
    (levels.flatMap fun level => plugins.filter (·.severity = level)) = plugins := by
  induction levels generalizing plugins with
  | nil =>
    rw [List.flatMap_nil, eq_comm, List.eq_nil_iff_forall_not_mem]
    exact fun p hp => List.not_mem_nil (hmem p hp)
  | cons level rest ih =>
    obtain ⟨hlevel, hrest⟩ := List.pairwise_cons.1 hlevels
    -- no plugin is above the highest level, so those of this level come first
    have hfront : plugins.Pairwise fun a b =>
        decide (b.severity = level) → decide (a.severity = level) := by
      refine h.imp_of_mem fun {a b} ha _ hba hb => ?_
      have hle : level ≤ a.severity := of_decide_eq_true hb ▸ hba
      rcases List.mem_cons.1 (hmem a ha) with heq | hlower
      · exact decide_eq_true heq
      · exact absurd hle (hlevel _ hlower)
    have hlower : ∀ p ∈ plugins.filter (fun p => !decide (p.severity = level)),
        p.severity ∈ rest := by
      intro p hp
      obtain ⟨hp, hne⟩ := List.mem_filter.1 hp
      exact (List.mem_cons.1 (hmem p hp)).resolve_left (by simpa using hne)
    have hothers : ∀ level' ∈ rest, plugins.filter (·.severity = level') =
        (plugins.filter fun p => !decide (p.severity = level)).filter (·.severity = level') := by
      intro level' hlevel'
      have hne : level' ≠ level := by
        rintro rfl
        exact hlevel _ hlevel' (Nat.le_refl _)
      rw [List.filter_filter]
      refine List.filter_congr fun p _ => ?_
      by_cases hp : p.severity = level' <;> simp [hp, hne]
    rw [List.flatMap_cons, List.flatMap_congr hothers, ih hrest (h.filter _) hlower]
    exact filter_append_filter_not hfront

/-- Sorting puts the levels one behind the other, each in the order that it was in. -/
theorem sortBySeverity_eq_flatMap (plugins : List Plugin) :
    sortBySeverity plugins =
      Severity.all.reverse.flatMap fun level => plugins.filter (·.severity = level) := by
  have hall : ∀ level : Severity, level ∈ Severity.all.reverse := by
    intro level
    cases level <;> decide
  have hlevels : Severity.all.reverse.Pairwise fun a b => ¬ a ≤ b := by decide
  rw [← flatMap_filter_of_pairwise hlevels (pairwise_sortBySeverity plugins) fun p _ => hall _]
  exact List.flatMap_congr fun level _ => filter_sortBySeverity plugins level

/-- It makes no difference whether a list is filtered before it is sorted or behind that. -/
theorem sortBySeverity_filter (plugins : List Plugin) (test : Plugin → Bool) :
    sortBySeverity (plugins.filter test) = (sortBySeverity plugins).filter test := by
  rw [sortBySeverity_eq_flatMap, sortBySeverity_eq_flatMap, List.filter_flatMap]
  exact List.flatMap_congr fun level _ => List.filter_comm ..

/-! ### Unmatched plugins -/

theorem unmatched_eq (matched plugins : List Plugin) :
    unmatched matched plugins =
      sortBySeverity (plugins.filter fun p => p.id ∉ matched.map (·.id)) := by
  refine congrArg sortBySeverity (List.filter_congr fun p _ => ?_)
  rw [Bool.eq_iff_iff]
  simp

/-- The unmatched ids are those of the list that the matched plugins do not have. -/
theorem mem_ids_unmatched_iff {matched plugins : List Plugin} {id : String} :
    id ∈ (unmatched matched plugins).map (·.id) ↔
      id ∈ plugins.map (·.id) ∧ id ∉ matched.map (·.id) := by
  rw [unmatched_eq, ((sortBySeverity_perm _).map _).mem_iff]
  simp only [List.mem_map, List.mem_filter, decide_eq_true_eq]
  constructor
  · rintro ⟨p, ⟨hp, hnew⟩, rfl⟩
    exact ⟨⟨p, hp, rfl⟩, hnew⟩
  · rintro ⟨⟨p, hp, rfl⟩, hnew⟩
    exact ⟨p, ⟨hp, hnew⟩, rfl⟩

/-! ### Growing by new ids -/

variable {plugins more : List Plugin} {p : Plugin}

theorem addNew_of_mem (h : p.id ∈ plugins.map (·.id)) : addNew plugins p = plugins := by
  rw [addNew, if_pos]
  simpa using h

theorem addNew_of_notMem (h : p.id ∉ plugins.map (·.id)) : addNew plugins p = plugins ++ [p] := by
  rw [addNew, if_neg]
  simpa using h

/-- Growing a list is reducing it and what comes in to the first of each id. -/
theorem foldl_addNew_firstBy (plugins more : List Plugin) :
    more.foldl addNew (firstBy (·.id) plugins) = firstBy (·.id) (plugins ++ more) := by
  induction more generalizing plugins with
  | nil => rw [List.append_nil, List.foldl_nil]
  | cons p rest ih =>
    have hstep : addNew (firstBy (·.id) plugins) p = firstBy (·.id) (plugins ++ [p]) := by
      rw [firstBy_concat]
      by_cases hmem : p.id ∈ plugins.map (·.id)
      · rw [if_pos hmem, addNew_of_mem ((mem_map_firstBy _).2 hmem)]
      · rw [if_neg hmem, addNew_of_notMem fun h => hmem ((mem_map_firstBy _).1 h)]
    rw [List.foldl_cons, hstep, ih, List.append_assoc, List.singleton_append]

theorem foldl_addNew_nil (more : List Plugin) : more.foldl addNew [] = firstBy (·.id) more :=
  foldl_addNew_firstBy [] more

end ScanQuery.Plugin
