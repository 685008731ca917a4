import Mathlib
import ScanQuery.FileTree

/-!
Writing files. A text that is written under a path is what is read under it afterwards, and
nothing else in the tree has changed. The new file stands at a place where there was no directory,
so no path that could be followed before leads through it, and all of them lead where they did.
-/

namespace ScanQuery

/-- Leaving out a key takes away what is found under it and nothing else. -/
theorem lookup_filter_ne {κ α : Type} [BEq κ] [LawfulBEq κ] [DecidableEq κ] (key sought : κ)
    (entries : List (κ × α)) :
    (entries.filter (·.1 ≠ key)).lookup sought =
      if sought = key then none else entries.lookup sought := by
  induction entries with
  | nil => simp
  | cons e rest ih =>
    obtain ⟨k, v⟩ := e
    by_cases hk : k = key
    · rw [List.filter_cons_of_neg (by simp [hk]), ih]
      split_ifs with hsought
      · rfl
      · rw [List.lookup_cons, beq_false_of_ne (hk ▸ hsought)]
    · rw [List.filter_cons_of_pos (by simp [hk]), List.lookup_cons, List.lookup_cons, ih]
      by_cases hsought : sought = k
      · simp [hsought, hk]
      · rw [beq_false_of_ne hsought]

namespace FileTree

variable {t t' : FileTree}

/-! ### What stands where -/

theorem not_isPrefixOf_base {place : List String} (h : t.at? place ≠ some .directory) :
    ¬ place.isPrefixOf t.base = true :=
  fun hprefix => h (if_pos hprefix)

theorem at?_put {place : List String} (h : t.at? place ≠ some .directory) (e : Entry)
    (q : List String) : (t.put place e).at? q = if q = place then some e else t.at? q := by
  by_cases hq : q = place
  · subst hq
    have hnew : (t.put q e).at? q = (t.put q e).entries.lookup q := if_neg (not_isPrefixOf_base h)
    rw [if_pos rfl, hnew, put, List.lookup_cons_self]
  · have hlookup : (t.put place e).entries.lookup q = t.entries.lookup q := by
      simp only [put, List.lookup_cons, beq_false_of_ne hq, lookup_filter_ne, if_neg hq]
    rw [if_neg hq, at?, at?, hlookup]
    rfl

/-- What was at a place other than the new one is still there. -/
theorem at?_put_of_ne {place q : List String} (h : t.at? place ≠ some .directory) (e : Entry)
    (hq : q ≠ place) : (t.put place e).at? q = t.at? q := by
  rw [at?_put h, if_neg hq]

/-! ### Following names -/

theorem follow_append (t : FileTree) (front rest : List String) (place : List String) :
    t.follow place (front ++ rest) = (t.follow place front).bind (t.follow · rest) := by
  induction front generalizing place with
  | nil =>
    cases hplace : t.at? place with
    | none => cases rest <;> simp [follow, hplace, Except.bind]
    | some e => simp [follow, hplace, Except.bind]
  | cons name front ih =>
    simp only [List.cons_append, follow]
    cases t.at? place with
    | none => rfl
    | some e =>
      cases e with
      | directory => simp only [ih]; split_ifs <;> rfl
      | text content => rfl
      | binary => rfl

/-- Names lead to places where something stands. -/
theorem isSome_of_follow {names p q : List String} (h : t.follow p names = .ok q) :
    (t.at? q).isSome := by
  induction names generalizing p with
  | nil =>
    rw [follow] at h
    split_ifs at h with hsome
    obtain rfl := Except.ok.inj h
    exact hsome
  | cons name rest ih =>
    rw [follow] at h
    split at h
    · cases h
    · split_ifs at h
      · exact ih h
      · exact ih h
      · exact ih h
    · cases h

/-- Names lead where they led as long as directories stay and something stands at the end. -/
theorem follow_of_directories
    (hkept : ∀ p, t.at? p = some .directory → t'.at? p = some .directory)
    {names p q : List String} (hq : (t'.at? q).isSome) (h : t.follow p names = .ok q) :
    t'.follow p names = .ok q := by
  induction names generalizing p with
  | nil =>
    rw [follow] at h ⊢
    split_ifs at h
    obtain rfl := Except.ok.inj h
    rw [if_pos hq]
  | cons name rest ih =>
    rw [follow] at h
    split at h
    · cases h
    · next hp =>
      rw [follow, hkept p hp]
      simp only
      split_ifs at h ⊢
      · exact ih h
      · exact ih h
      · exact ih h
    · cases h

/-- Names that lead somewhere still lead there. -/
theorem follow_put {place : List String} (h : t.at? place ≠ some .directory) (e : Entry)
    {names : List String} {p q : List String} (hfollow : t.follow p names = .ok q) :
    (t.put place e).follow p names = .ok q := by
  refine follow_of_directories (fun p hp => ?_) ?_ hfollow
  · have hne : p ≠ place := fun hplace => h (hplace ▸ hp)
    rw [at?_put_of_ne h e hne, hp]
  · rw [at?_put h]
    split_ifs
    · rfl
    · exact isSome_of_follow hfollow

theorem find_eq_ok_iff {path : String} {place : List String} {e : Entry} :
    t.find path = .ok (place, e) ↔ checkPath path = .ok () ∧
      t.follow (t.start path) (names path) = .ok place ∧ t.at? place = some e := by
  rw [find]
  cases checkPath path with
  | error cause => simp [bind, Except.bind]
  | ok _ =>
    cases t.follow (t.start path) (names path) with
    | error cause => simp [bind, Except.bind]
    | ok q =>
      simp only [bind, Except.bind, pure, Except.pure, Except.ok.injEq, true_and]
      constructor
      · intro h
        split at h
        · next found hfound =>
          obtain ⟨rfl, rfl⟩ := Prod.mk.inj (Except.ok.inj h)
          exact ⟨rfl, hfound⟩
        · cases h
      · rintro ⟨rfl, hfound⟩
        rw [hfound]

/-- A path to a directory stays one as long as directories stay. -/
theorem find_of_directories (hbase : t'.base = t.base)
    (hkept : ∀ p, t.at? p = some .directory → t'.at? p = some .directory) {path : String}
    {place : List String} (h : t.find path = .ok (place, .directory)) :
    t'.find path = .ok (place, .directory) := by
  obtain ⟨hcheck, hfollow, hplace⟩ := find_eq_ok_iff.1 h
  have hplace' := hkept place hplace
  have hstart : t'.start path = t.start path := by rw [start, start, hbase]
  refine find_eq_ok_iff.2 ⟨hcheck, ?_, hplace'⟩
  rw [hstart]
  exact follow_of_directories hkept (by rw [hplace']; rfl) hfollow

/-! ### Writing and reading -/

/-- The place of a new file: a name in a directory to which the names before it lead. -/
theorem exists_of_target {path : String} {place : List String} (h : t.target path = .ok place) :
    checkPath path = .ok () ∧ ∃ front name above, names path = front ++ [name] ∧
      t.follow (t.start path) front = .ok above ∧ t.at? above = some .directory ∧
      name ≠ "" ∧ name ≠ "." ∧ name ≠ ".." ∧ name.utf8ByteSize ≤ longestName ∧
      place = above ++ [name] := by
  obtain ⟨kept, hkept⟩ : ∃ kept, kept = (names path).rdropWhile (· = "") := ⟨_, rfl⟩
  simp only [target, ← List.rdropWhile.eq_def, ← hkept] at h
  cases hcheck : checkPath path with
  | error cause => simp [hcheck, bind, Except.bind] at h
  | ok _ =>
    cases habove : t.follow (t.start path) kept.dropLast with
    | error cause => simp [hcheck, habove, bind, Except.bind] at h
    | ok above =>
      simp only [hcheck, habove, bind, Except.bind] at h
      split at h
      · next name hdirectory hname =>
        split_ifs at h with hrefused hlong
        obtain ⟨hlength, hdot, hdots⟩ : (names path).length ≤ kept.length ∧ name ≠ "." ∧
            name ≠ ".." := by simpa [not_or] using hrefused
        -- nothing was cut off, so the path ends with the name
        have hall : kept = names path :=
          (hkept ▸ List.rdropWhile_prefix _ _ : kept <+: names path).eq_of_length_le hlength
        have hne : kept ≠ [] := fun hnil => by simp [hnil] at hname
        have hlast : kept.getLast hne = name :=
          Option.some.inj ((List.getLast?_eq_some_getLast hne).symm.trans hname)
        have hnames : names path = kept.dropLast ++ [name] := by
          rw [← hlast, List.dropLast_append_getLast, hall]
        have hempty : name ≠ "" := by
          subst hkept
          simpa [hlast] using List.rdropWhile_last_not (fun s => decide (s = "")) (names path) hne
        exact ⟨rfl, kept.dropLast, name, above, hnames, habove, hdirectory, hempty, hdot, hdots,
          Nat.not_lt.1 hlong, (Except.ok.inj h).symm⟩
      · cases h
      · cases h

theorem write_eq_ok_iff {path content : String} :
    t.write path content = .ok t' ↔ ∃ place, t.target path = .ok place ∧
      t.at? place ≠ some .directory ∧ t' = t.put place (.text content) := by
  unfold write
  cases t.target path with
  | error cause => simp [bind, Except.bind]
  | ok place =>
    by_cases hplace : t.at? place = some .directory
    · simp [bind, Except.bind, hplace]
    · simp only [bind, Except.bind, hplace, pure, Except.pure, if_false, Except.ok.injEq,
        exists_eq_left', ne_eq, not_false_eq_true, true_and]
      exact eq_comm

/-- What is written under a path is read under it. -/
theorem read_write {path content : String} (h : t.write path content = .ok t') :
    t'.read path = .ok content := by
  obtain ⟨place, htarget, hplace, ht'⟩ := write_eq_ok_iff.1 h
  obtain ⟨hcheck, front, name, above, hnames, habove, hdirectory, hempty, hdot, hdots, hlength,
    rfl⟩ := exists_of_target htarget
  have hat : ∀ q, t'.at? q = if q = above ++ [name] then some (.text content) else t.at? q :=
    ht' ▸ at?_put hplace _
  have hfound : t'.at? (above ++ [name]) = some (.text content) := by rw [hat, if_pos rfl]
  have hdirectory' : t'.at? above = some .directory := by rw [hat, if_neg (by simp), hdirectory]
  -- the directory is still reached, and one more step leads to the file
  have habove' : t'.follow (t.start path) front = .ok above := ht' ▸ follow_put hplace _ habove
  have hlast : t'.follow above [name] = .ok (above ++ [name]) := by
    simp [follow, hdirectory', hempty, hdot, hdots, Nat.not_lt.2 hlength, hfound]
  have hfollow : t'.follow (t'.start path) (names path) = .ok (above ++ [name]) := by
    have hstart : t'.start path = t.start path := ht' ▸ rfl
    rw [hstart, hnames, follow_append, habove']
    exact hlast
  simp [read, find, hcheck, hfollow, hfound, bind, Except.bind, pure, Except.pure]

/-- Writing changes what stands at one place. -/
theorem at?_write {path content : String} (h : t.write path content = .ok t') :
    ∃ place, t.target path = .ok place ∧ ∀ q ≠ place, t'.at? q = t.at? q := by
  obtain ⟨place, htarget, hplace, rfl⟩ := write_eq_ok_iff.1 h
  exact ⟨place, htarget, fun q hq => at?_put_of_ne hplace _ hq⟩

end FileTree

end ScanQuery
