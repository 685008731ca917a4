import ScanQuery.Proofs.FileTree

/-!
Walking. A walk through what stands at a place comes to the place first and then, if it is a
directory, to everything below it: entry by entry in the order of their names, each with all that is
below it before the next one. The names that lead to the places of a walk are therefore in the order
of lists, compared name by name: a place comes before those below it, and what two places have in
common does not count. So the files that a walk meets are those found by sorting what is there.

In a well-formed tree every entry stands in a directory, so a walk reaches everything, and no place
has two entries, so it meets everything once.
-/

namespace ScanQuery.FileTree

/-- Every place has one entry at most, entries stand in directories, and nothing else than
directories leads to the working directory. -/
structure WellFormed (t : FileTree) : Prop where
  distinct : (t.entries.map (·.1)).Nodup
  above : ∀ x ∈ t.entries, t.at? x.1.dropLast = some .directory
  base : ∀ x ∈ t.entries, x.1.isPrefixOf t.base = true → x.2 = .directory

/-- A walk through what stands at a place: everything in turn, with the names that lead there. -/
inductive Walk (t : FileTree) : List String → List (List String × Entry) → Prop
  | file {place : List String} {e : Entry} (hat : t.at? place = some e) (hfile : e ≠ .directory) :
    Walk t place [([], e)]
  | directory {place names : List String} {walks : String → List (List String × Entry)}
    (hat : t.at? place = some .directory)
    (hnames : ∀ name, name ∈ names ↔ (t.at? (place ++ [name])).isSome)
    (hascending : names.Pairwise (· < ·))
    (hwalks : ∀ name ∈ names, Walk t (place ++ [name]) (walks name)) :
    Walk t place
      (([], .directory) :: names.flatMap fun name => (walks name).map fun x => (name :: x.1, x.2))

variable {t : FileTree} {place : List String} {walk : List (List String × Entry)}

/-! ### Entries and places -/

/-- An entry stands at its place. -/
theorem WellFormed.at?_of_mem (ht : t.WellFormed) {p : List String} {e : Entry}
    (h : (p, e) ∈ t.entries) : t.at? p = some e := by
  unfold at?
  split
  · next hbase =>
    have he : e = .directory := ht.base _ h hbase
    rw [he]
  · obtain ⟨front, rest, hsplit⟩ := List.append_of_mem h
    have hdistinct := ht.distinct
    rw [hsplit, List.map_append, List.map_cons, List.nodup_append] at hdistinct
    refine List.lookup_eq_some_iff.2 ⟨front, rest, hsplit, fun x hx => ?_⟩
    rw [bne_iff_ne]
    exact (hdistinct.2.2 x.1 (List.mem_map_of_mem hx) p List.mem_cons_self).symm

/-- What stands somewhere is an entry, or a directory that leads to the working directory. -/
theorem WellFormed.at?_eq_some_iff (ht : t.WellFormed) {p : List String} {e : Entry} :
    t.at? p = some e ↔ (p, e) ∈ t.entries ∨ p <+: t.base ∧ e = .directory := by
  constructor
  · intro h
    unfold at? at h
    split at h
    · next hbase => exact .inr ⟨List.isPrefixOf_iff_prefix.1 hbase, (Option.some.inj h).symm⟩
    · obtain ⟨front, rest, hsplit, -⟩ := List.lookup_eq_some_iff.1 h
      exact .inl (by rw [hsplit]; simp)
  · rintro (h | ⟨hbase, rfl⟩)
    · exact ht.at?_of_mem h
    · exact if_pos (List.isPrefixOf_iff_prefix.2 hbase)

/-- What stands above an entry is a directory. -/
theorem WellFormed.at?_dropLast (ht : t.WellFormed) {p : List String} (h : (t.at? p).isSome) :
    t.at? p.dropLast = some .directory := by
  obtain ⟨e, he⟩ := Option.isSome_iff_exists.1 h
  rcases ht.at?_eq_some_iff.1 he with hentry | ⟨hbase, -⟩
  · exact ht.above (p, e) hentry
  · exact ht.at?_eq_some_iff.2 (.inr ⟨(List.dropLast_prefix p).trans hbase, rfl⟩)

/-- So is everything on the way to an entry. -/
theorem WellFormed.at?_of_append (ht : t.WellFormed) {p q : List String} (hq : q ≠ [])
    (h : (t.at? (p ++ q)).isSome) : t.at? p = some .directory := by
  induction q using List.reverseRecOn with
  | nil => exact absurd rfl hq
  | append_singleton q name ih =>
    have habove := ht.at?_dropLast h
    rw [← List.append_assoc, List.dropLast_concat] at habove
    cases q with
    | nil => simpa using habove
    | cons first q => exact ih (List.cons_ne_nil first q) (by rw [habove]; rfl)

theorem WellFormed.put (ht : t.WellFormed) (hplace : t.at? place ≠ some .directory)
    (habove : t.at? place.dropLast = some .directory) (e : Entry) : (t.put place e).WellFormed := by
  have hkept : ∀ p, t.at? p = some .directory → (t.put place e).at? p = some .directory := by
    intro p hp
    have hne : p ≠ place := fun heq => hplace (heq ▸ hp)
    rw [at?_put_of_ne hplace e hne, hp]
  constructor
  case distinct =>
    rw [FileTree.put, List.map_cons, List.nodup_cons]
    refine ⟨fun hmem => ?_, ht.distinct.sublist (List.filter_sublist.map _)⟩
    obtain ⟨x, hx, hplace⟩ := List.mem_map.1 hmem
    exact of_decide_eq_true (List.mem_filter.1 hx).2 hplace
  case above =>
    intro x hx
    rcases List.mem_cons.1 hx with rfl | hx
    · exact hkept _ habove
    · exact hkept _ (ht.above x (List.mem_filter.1 hx).1)
  case base =>
    intro x hx hbase
    rcases List.mem_cons.1 hx with rfl | hx
    · exact absurd hbase (not_isPrefixOf_base (t := t) hplace)
    · exact ht.base x (List.mem_filter.1 hx).1 hbase

/-- Writing a file keeps a tree well-formed. -/
theorem WellFormed.write (ht : t.WellFormed) {t' : FileTree} {path content : String}
    (h : t.write path content = .ok t') : t'.WellFormed := by
  obtain ⟨place, htarget, hplace, rfl⟩ := write_eq_ok_iff.1 h
  obtain ⟨-, front, name, above, -, -, habove, -, -, -, -, rfl⟩ := exists_of_target htarget
  exact ht.put hplace (by rw [List.dropLast_concat, habove]) _

/-! ### What a walk meets -/

/-- A walk meets everything that is there. -/
theorem Walk.mem_iff (ht : t.WellFormed) (h : t.Walk place walk) {names : List String}
    {e : Entry} : (names, e) ∈ walk ↔ t.at? (place ++ names) = some e := by
  induction h generalizing names with
  | @file place found hat hfile =>
    rw [List.mem_singleton, Prod.mk.injEq]
    constructor
    · rintro ⟨rfl, rfl⟩
      rwa [List.append_nil]
    · intro hplace
      rcases eq_or_ne names [] with rfl | hnames
      · rw [List.append_nil, hat] at hplace
        exact ⟨rfl, (Option.some.inj hplace).symm⟩
      · -- nothing is below a file
        have hdirectory := ht.at?_of_append hnames (by rw [hplace]; rfl)
        exact absurd (Option.some.inj (hat.symm.trans hdirectory)) hfile
  | @directory place below walks hat hnames hascending hwalks ih =>
    simp only [List.mem_cons, List.mem_flatMap, List.mem_map, Prod.mk.injEq]
    constructor
    · rintro (⟨rfl, rfl⟩ | ⟨name, hname, x, hx, rfl, rfl⟩)
      · rwa [List.append_nil]
      · have hstep := (ih name hname).1 hx
        rwa [List.append_assoc, List.singleton_append] at hstep
    · intro hplace
      cases names with
      | nil =>
        rw [List.append_nil, hat] at hplace
        exact .inl ⟨rfl, (Option.some.inj hplace).symm⟩
      | cons name rest =>
        have hstep : t.at? (place ++ [name] ++ rest) = some e := by
          rw [List.append_assoc, List.singleton_append, hplace]
        have hname : name ∈ below := by
          rw [hnames]
          rcases eq_or_ne rest [] with rfl | hrest
          · rw [hplace]
            rfl
          · rw [ht.at?_of_append hrest (by rw [hstep]; rfl)]
            rfl
        exact .inr ⟨name, hname, (rest, e), (ih name hname).2 hstep, rfl, rfl⟩

/-- A walk goes in the order of the names. -/
theorem Walk.ascending (h : t.Walk place walk) : walk.Pairwise fun a b => a.1 < b.1 := by
  induction h with
  | file hat hfile => exact List.pairwise_singleton ..
  | directory hat hnames hascending hwalks ih =>
    refine List.pairwise_cons.2 ⟨?_, List.pairwise_flatMap.2 ⟨?_, ?_⟩⟩
    · intro x hx
      simp only [List.mem_flatMap, List.mem_map] at hx
      obtain ⟨name, -, x, -, rfl⟩ := hx
      exact List.nil_lt_cons name x.1
    · intro name hname
      rw [List.pairwise_map]
      exact (ih name hname).imp fun hlt => List.cons_lt_cons_iff.2 (.inr ⟨rfl, hlt⟩)
    · refine hascending.imp fun {name name'} hlt => ?_
      intro x hx y hy
      obtain ⟨x, -, rfl⟩ := List.mem_map.1 hx
      obtain ⟨y, -, rfl⟩ := List.mem_map.1 hy
      exact List.cons_lt_cons_iff.2 (.inl hlt)

/-- There is one walk through what stands at a place. -/
theorem Walk.unique (ht : t.WellFormed) {walk' : List (List String × Entry)}
    (h : t.Walk place walk) (h' : t.Walk place walk') : walk = walk' := by
  refine h.ascending.eq_of_mem_iff h'.ascending ?_
  rintro ⟨names, e⟩
  rw [h.mem_iff ht, h'.mem_iff ht]

/-! ### Every place has a walk -/

/-- All names that are used in a tree. -/
def allNames (t : FileTree) : List String :=
  t.base ++ t.entries.flatMap (·.1)

/-- A place where something stands is made of the names in use. -/
theorem infix_allNames (h : (t.at? place).isSome) : place <:+: t.allNames := by
  unfold at? at h
  unfold allNames
  split at h
  · next hbase =>
    exact (List.isPrefixOf_iff_prefix.1 hbase).isInfix.trans (List.infix_append' [] _ _)
  · obtain ⟨e, he⟩ := Option.isSome_iff_exists.1 h
    obtain ⟨front, rest, hsplit, -⟩ := List.lookup_eq_some_iff.1 he
    rw [hsplit, List.flatMap_append, List.flatMap_cons, ← List.append_assoc]
    exact List.infix_append' _ _ _

theorem length_le_allNames (h : (t.at? place).isSome) : place.length ≤ t.allNames.length :=
  (infix_allNames h).length_le

/-- The names under which something stands in a directory. -/
def childNames (t : FileTree) (place : List String) : List String :=
  (t.allNames.toFinset.filter fun name => (t.at? (place ++ [name])).isSome).sort

theorem mem_childNames {name : String} :
    name ∈ t.childNames place ↔ (t.at? (place ++ [name])).isSome := by
  rw [childNames, Finset.mem_sort, Finset.mem_filter, List.mem_toFinset, and_iff_right_iff_imp]
  intro h
  exact (infix_allNames h).subset (by simp)

theorem pairwise_childNames (t : FileTree) (place : List String) :
    (t.childNames place).Pairwise (· < ·) :=
  (Finset.sortedLT_sort _).pairwise

/-- Whatever stands at a place can be walked through. -/
theorem exists_walk (h : (t.at? place).isSome) : ∃ walk, t.Walk place walk := by
  -- places have no more names than there are in use
  induction hroom : t.allNames.length - place.length using Nat.strong_induction_on
    generalizing place with
  | _ room ih =>
    obtain ⟨e, he⟩ := Option.isSome_iff_exists.1 h
    rcases eq_or_ne e .directory with rfl | hfile
    · have hbelow : ∀ name ∈ t.childNames place, ∃ walk, t.Walk (place ++ [name]) walk := by
        intro name hname
        have hchild := mem_childNames.1 hname
        have hlength := length_le_allNames hchild
        rw [List.length_append, List.length_singleton] at hlength
        refine ih _ ?_ hchild rfl
        rw [List.length_append, List.length_singleton]
        omega
      choose! walks hwalks using hbelow
      exact ⟨_, .directory he (fun _ => mem_childNames) (pairwise_childNames t place) hwalks⟩
    · exact ⟨_, .file he hfile⟩

/-- The walk is what is there, in the order of the names. -/
theorem walk_iff (ht : t.WellFormed) (hplace : (t.at? place).isSome) :
    t.Walk place walk ↔ (walk.Pairwise fun a b => a.1 < b.1) ∧
      ∀ names e, (names, e) ∈ walk ↔ t.at? (place ++ names) = some e := by
  constructor
  · intro h
    exact ⟨h.ascending, fun names e => h.mem_iff ht⟩
  · rintro ⟨hascending, hmem⟩
    obtain ⟨walk', h⟩ := exists_walk hplace
    have heq : walk = walk' := by
      refine hascending.eq_of_mem_iff h.ascending ?_
      rintro ⟨names, e⟩
      rw [hmem, h.mem_iff ht]
    exact heq ▸ h

/-! ### The files of a walk -/

/-- The names that lead from a place to a file, if it is below that place. -/
def fileFrom (place : List String) (x : List String × Entry) : Option (List String × Entry) :=
  if x.2 = .directory then none else (place.isPrefixOf? x.1).map fun rest => (rest, x.2)

theorem fileFrom_eq_some_iff {x : List String × Entry} {names : List String} {e : Entry} :
    fileFrom place x = some (names, e) ↔ e ≠ .directory ∧ x = (place ++ names, e) := by
  obtain ⟨p, found⟩ := x
  rw [fileFrom]
  constructor
  · intro h
    split at h
    · cases h
    · next hfile =>
      obtain ⟨rest, hrest, hpair⟩ := Option.map_eq_some_iff.1 h
      obtain ⟨rfl, rfl⟩ := Prod.mk.inj hpair
      rw [List.isPrefixOf?_eq_some_iff_append_eq.1 hrest]
      exact ⟨hfile, rfl⟩
  · rintro ⟨hfile, hx⟩
    obtain ⟨rfl, rfl⟩ := Prod.mk.inj hx
    rw [if_neg hfile, List.isPrefixOf?_eq_some_iff_append_eq.2 rfl]
    rfl

theorem filesBelow_perm (t : FileTree) (place : List String) :
    (t.filesBelow place).Perm (t.entries.filterMap (fileFrom place)) :=
  List.mergeSort_perm _ _

theorem WellFormed.mem_filesBelow_iff (ht : t.WellFormed) {names : List String} {e : Entry} :
    (names, e) ∈ t.filesBelow place ↔ e ≠ .directory ∧ t.at? (place ++ names) = some e := by
  rw [(filesBelow_perm t place).mem_iff, List.mem_filterMap]
  constructor
  · rintro ⟨x, hx, hfound⟩
    obtain ⟨hfile, rfl⟩ := fileFrom_eq_some_iff.1 hfound
    exact ⟨hfile, ht.at?_of_mem hx⟩
  · rintro ⟨hfile, hat⟩
    have hentry : (place ++ names, e) ∈ t.entries :=
      (ht.at?_eq_some_iff.1 hat).resolve_right fun h => hfile h.2
    exact ⟨_, hentry, fileFrom_eq_some_iff.2 ⟨hfile, rfl⟩⟩

/-- The files below a place are in the order of their names. -/
theorem WellFormed.pairwise_filesBelow (ht : t.WellFormed) (place : List String) :
    (t.filesBelow place).Pairwise fun a b => a.1 < b.1 := by
  have hsorted : (t.filesBelow place).Pairwise fun a b => a.1 ≤ b.1 := by
    refine (List.pairwise_mergeSort ?_ ?_ _).imp fun {a b} h => ?_
    · intro a b c hab hbc
      simp only [Bool.not_eq_true', decide_eq_false_iff_not, not_lt] at hab hbc ⊢
      exact hab.trans hbc
    · intro a b
      simp only [Bool.or_eq_true, Bool.not_eq_true', decide_eq_false_iff_not, not_lt]
      exact le_total a.1 b.1
    · simpa using h
  -- every place has one entry, so no two files come by the same names
  have hapart : (t.filesBelow place).Pairwise fun a b => a.1 ≠ b.1 := by
    rw [(filesBelow_perm t place).pairwise_iff fun h => h.symm, List.pairwise_filterMap]
    refine (List.pairwise_map.1 ht.distinct).imp fun {x y} hne a ha b hb heq => hne ?_
    obtain ⟨-, rfl⟩ := fileFrom_eq_some_iff.1 ha
    obtain ⟨-, rfl⟩ := fileFrom_eq_some_iff.1 hb
    exact congrArg (place ++ ·) heq
  exact hsorted.imp₂ (fun _ _ hle hne => lt_of_le_of_ne hle hne) hapart

/-- The files below a place are those of a walk, in its order. -/
theorem Walk.filter_eq_filesBelow (ht : t.WellFormed) (h : t.Walk place walk) :
    walk.filter (·.2 ≠ .directory) = t.filesBelow place := by
  refine (h.ascending.filter _).eq_of_mem_iff (ht.pairwise_filesBelow place) ?_
  rintro ⟨names, e⟩
  rw [List.mem_filter, h.mem_iff ht, ht.mem_filesBelow_iff, decide_eq_true_iff, and_comm]

end ScanQuery.FileTree
