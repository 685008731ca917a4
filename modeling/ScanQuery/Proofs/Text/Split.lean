import Mathlib.Data.List.Infix
import ScanQuery.Proofs.Text.Trim
import ScanQuery.Text.Split

/-!
Cutting and joining. A cut is made at the first place where the separator occurs, so nothing that
stands behind a cut can move it. A text is `Clear` of a separator when no match begins in it as
long as the separator follows; clear texts joined by the separator are cut where they were joined.

A word between two spaces, such as ` or `, overlaps itself in its spaces only. So a text without
a match is clear of it unless it ends in a space and the word, and a text put in front of the
separator is cut as on its own under the same condition.
-/

namespace ScanQuery.Text

/-! ### Occurrences -/

/-- An occurrence that avoids a character lies on one side of it. -/
theorem infix_of_infix_append_cons {w xs ys : List Char} {c : Char} (hc : c ∉ w)
    (h : w <:+: xs ++ c :: ys) : w <:+: xs ∨ w <:+: ys := by
  rcases List.infix_append_iff_ne_nil.1 h with h | h | ⟨w₁, w₂, -, hne, rfl, -, hpre⟩
  · exact .inl h
  · rcases List.infix_cons_iff.1 h with hpre | h
    · cases w with
      | nil => exact .inl List.nil_infix
      | cons d w =>
        obtain rfl : d = c := (List.cons_prefix_cons.1 hpre).1
        exact absurd List.mem_cons_self hc
    · exact .inr h
  · cases w₂ with
    | nil => exact absurd rfl hne
    | cons d w₂ =>
      obtain rfl : d = c := (List.cons_prefix_cons.1 hpre).1
      exact absurd (List.mem_append_right w₁ List.mem_cons_self) hc

/-- An occurrence that avoids all characters of a text in the middle lies on one side of it. -/
theorem infix_of_infix_append_append {w : List Char} : ∀ {xs mid ys : List Char}, mid ≠ [] →
    (∀ c ∈ mid, c ∉ w) → w <:+: xs ++ (mid ++ ys) → w <:+: xs ∨ w <:+: ys
  | _, [], _, hne, _, _ => absurd rfl hne
  | _, [c], _, _, hapart, h => infix_of_infix_append_cons (hapart c List.mem_cons_self) h
  | xs, c :: d :: mid, ys, _, hapart, h => by
    rcases infix_of_infix_append_cons (hapart c List.mem_cons_self) h with h | h
    · exact .inl h
    · have hrest : w <:+: [] ++ (d :: mid ++ ys) := h
      rcases infix_of_infix_append_append (List.cons_ne_nil d mid)
        (fun e he => hapart e (List.mem_cons_of_mem c he)) hrest with h | h
      · exact .inl (List.infix_nil.1 h ▸ List.nil_infix)
      · exact .inr h

/-- A text does not occur in another one that lacks one of its characters. -/
theorem not_infix_of_not_mem {w cs : List Char} {c : Char} (hw : c ∈ w) (hcs : c ∉ cs) :
    ¬ w <:+: cs :=
  fun h => hcs (h.subset hw)

/-- A character of joined texts is one of theirs or one of what they are joined with. -/
theorem mem_of_mem_intercalate {c : Char} {sep : List Char} {texts : List (List Char)}
    (h : c ∈ sep.intercalate texts) : c ∈ sep ∨ ∃ t ∈ texts, c ∈ t := by
  induction texts with
  | nil => simp at h
  | cons t rest ih =>
    cases rest with
    | nil => exact .inr ⟨t, List.mem_cons_self, by simpa using h⟩
    | cons t' rest =>
      rw [List.intercalate_cons_cons, List.append_assoc, List.mem_append, List.mem_append] at h
      rcases h with h | h | h
      · exact .inr ⟨t, List.mem_cons_self, h⟩
      · exact .inl h
      · rcases ih h with h | ⟨s, hs, hc⟩
        · exact .inl h
        · exact .inr ⟨s, List.mem_cons_of_mem t hs, hc⟩

/-- A text that lacks a character stands in front of it. -/
theorem prefix_of_append_eq {xs ys before after : List Char} {c : Char}
    (h : xs ++ ys = before ++ c :: after) (hc : c ∉ xs) : xs <+: before := by
  rcases List.append_eq_append_iff.1 h with ⟨rest, hbefore, -⟩ | ⟨rest, hxs, htail⟩
  · exact ⟨rest, hbefore.symm⟩
  · cases rest with
    | nil => simp [hxs]
    | cons d rest =>
      obtain rfl : c = d := (List.cons_eq_cons.1 htail).1
      exact absurd (by simp [hxs]) hc

theorem holds_iff {part cs : List Char} : holds part cs = true ↔ part <:+: cs := by
  induction cs with
  | nil => rw [holds, List.isEmpty_iff, List.infix_nil]
  | cons c cs ih =>
    rw [holds, Bool.or_eq_true, List.isPrefixOf_iff_prefix, ih, List.infix_cons_iff]

theorem contains_iff {s part : String} :
    contains s part = true ↔ part.toList <:+: s.toList :=
  holds_iff

theorem isPrefixOf?_append (p rest : List Char) : p.isPrefixOf? (p ++ rest) = some rest :=
  List.isPrefixOf?_eq_some_iff_append_eq.2 rfl

theorem isPrefixOf?_eq_none {p cs : List Char} (h : ¬ p <+: cs) : p.isPrefixOf? cs = none := by
  cases hp : p.isPrefixOf? cs with
  | none => rfl
  | some rest => exact absurd ⟨rest, (eq_append_of_isPrefixOf? hp).symm⟩ h

theorem afterStart?_eq_some_iff {start s rest : String} :
    afterStart? start s = some rest ↔ s = start ++ rest := by
  rw [afterStart?, Option.map_eq_some_iff]
  constructor
  · rintro ⟨cs, hcs, rfl⟩
    rw [← String.toList_inj, String.toList_append, String.toList_ofList]
    exact eq_append_of_isPrefixOf? hcs
  · rintro rfl
    exact ⟨rest.toList, by rw [String.toList_append, isPrefixOf?_append], String.ofList_toList⟩

theorem afterStart?_eq_none {start s : String} (h : ¬ start.toList <+: s.toList) :
    afterStart? start s = none := by
  rw [afterStart?, isPrefixOf?_eq_none h, Option.map_none]

/-! ### One cut -/

theorem cutAt?_append_self {sep : List Char} (hsep : sep ≠ []) (rest : List Char) :
    cutAt? sep (sep ++ rest) = some ([], rest) := by
  obtain ⟨c, w, rfl⟩ := List.exists_cons_of_ne_nil hsep
  have hp := isPrefixOf?_append (c :: w) rest
  simp only [List.cons_append] at hp ⊢
  simp only [cutAt?, hp]

theorem cutAt?_cons {sep cs : List Char} {c : Char} (h : ¬ sep <+: c :: cs) :
    cutAt? sep (c :: cs) = (cutAt? sep cs).map fun (before, after) => (c :: before, after) := by
  simp only [cutAt?, isPrefixOf?_eq_none h]

theorem cutAt?_eq_none_iff {sep cs : List Char} (hsep : sep ≠ []) :
    cutAt? sep cs = none ↔ ¬ sep <:+: cs := by
  induction cs with
  | nil => simp [cutAt?, hsep]
  | cons c cs ih =>
    by_cases hp : sep <+: c :: cs
    · obtain ⟨rest, hrest⟩ := hp
      rw [← hrest, cutAt?_append_self hsep]
      simp [List.infix_append_left]
    · rw [cutAt?_cons hp, Option.map_eq_none_iff, ih, List.infix_cons_iff]
      simp [hp]

/-- What follows a cut does not move it. -/
theorem cutAt?_append {sep cs before after : List Char} (hsep : sep ≠ [])
    (h : cutAt? sep cs = some (before, after)) (rest : List Char) :
    cutAt? sep (cs ++ rest) = some (before, after ++ rest) := by
  induction cs generalizing before with
  | nil => simp [cutAt?, hsep] at h
  | cons c cs ih =>
    by_cases hp : sep <+: c :: cs
    · obtain ⟨tail, htail⟩ := hp
      rw [← htail, cutAt?_append_self hsep] at h
      obtain ⟨rfl, rfl⟩ := by simpa using h
      rw [← htail, List.append_assoc, cutAt?_append_self hsep]
    · rw [cutAt?_cons hp] at h
      obtain ⟨⟨b, a⟩, hcut, hpair⟩ := Option.map_eq_some_iff.1 h
      obtain ⟨rfl, rfl⟩ := by simpa using hpair
      have hlong : ¬ sep <+: c :: (cs ++ rest) := by
        intro hpre
        -- the match would end before the first one does
        have hfits : (sep).length ≤ (c :: cs).length := by
          have hlen := congrArg List.length (eq_append_of_cutAt? hcut)
          simp only [List.length_append, List.length_cons] at hlen ⊢
          omega
        exact hp (List.prefix_of_prefix_length_le hpre (List.prefix_append (c :: cs) rest) hfits)
      rw [List.cons_append, cutAt?_cons hlong, ih hcut]
      rfl

/-- What is left behind a cut is shorter. -/
theorem length_lt_of_cutAt? {sep cs before after : List Char} (hsep : sep ≠ [])
    (h : cutAt? sep cs = some (before, after)) : after.length < cs.length := by
  have hlen := congrArg List.length (eq_append_of_cutAt? h)
  have hpos := List.length_pos_iff.2 hsep
  simp only [List.length_append] at hlen
  omega

/-- A cut is made where the separator occurs first. -/
theorem length_le_of_cutAt? {sep cs before after : List Char} (hsep : sep ≠ [])
    (h : cutAt? sep cs = some (before, after)) {before' after' : List Char}
    (heq : cs = before' ++ (sep ++ after')) : before.length ≤ before'.length := by
  induction cs generalizing before before' with
  | nil => simp [cutAt?, hsep] at h
  | cons c cs ih =>
    by_cases hp : sep <+: c :: cs
    · obtain ⟨rest, hrest⟩ := hp
      rw [← hrest, cutAt?_append_self hsep] at h
      obtain ⟨rfl, -⟩ := by simpa using h
      exact Nat.zero_le _
    · rw [cutAt?_cons hp] at h
      obtain ⟨⟨b, a⟩, hcut, hpair⟩ := Option.map_eq_some_iff.1 h
      obtain ⟨rfl, rfl⟩ := by simpa using hpair
      cases before' with
      | nil => exact absurd ⟨after', heq.symm⟩ hp
      | cons d before' => exact Nat.succ_le_succ (ih hcut (List.cons_eq_cons.1 heq).2)

theorem cutAt?_eq_some_iff {sep cs before after : List Char} (hsep : sep ≠ []) :
    cutAt? sep cs = some (before, after) ↔ cs = before ++ (sep ++ after) ∧
      ∀ before' after', cs = before' ++ (sep ++ after') → before.length ≤ before'.length := by
  constructor
  · intro h
    refine ⟨?_, fun _ _ heq => length_le_of_cutAt? hsep h heq⟩
    rw [← List.append_assoc]
    exact eq_append_of_cutAt? h
  · rintro ⟨heq, hfirst⟩
    have hin : sep <:+: cs := ⟨before, after, by rw [heq, List.append_assoc]⟩
    cases hcut : cutAt? sep cs with
    | none => exact absurd hin ((cutAt?_eq_none_iff hsep).1 hcut)
    | some cut =>
      obtain ⟨before', after'⟩ := cut
      have heq' : cs = before' ++ (sep ++ after') := by
        rw [← List.append_assoc]
        exact eq_append_of_cutAt? hcut
      have hlength : before'.length = before.length :=
        Nat.le_antisymm (length_le_of_cutAt? hsep hcut heq) (hfirst _ _ heq')
      obtain ⟨rfl, hrest⟩ := List.append_inj (heq'.symm.trans heq) hlength
      rw [List.append_cancel_left hrest]

theorem splitOnce?_eq_some_iff {sep s before after : String} (hsep : sep.toList ≠ []) :
    splitOnce? sep s = some (before, after) ↔ s = before ++ sep ++ after ∧
      ∀ before' after', s = before' ++ sep ++ after' → before.length ≤ before'.length := by
  have hsplit : splitOnce? sep s = some (before, after) ↔
      cutAt? sep.toList s.toList = some (before.toList, after.toList) := by
    rw [splitOnce?, Option.map_eq_some_iff]
    constructor
    · rintro ⟨⟨b, a⟩, hcut, hpair⟩
      obtain ⟨rfl, rfl⟩ := by simpa using hpair
      rw [hcut, String.toList_ofList, String.toList_ofList]
    · intro hcut
      exact ⟨_, hcut, by simp only [String.ofList_toList]⟩
  have happend : ∀ b a : String,
      s = b ++ sep ++ a ↔ s.toList = b.toList ++ (sep.toList ++ a.toList) := by
    intro b a
    rw [← String.toList_inj, String.toList_append, String.toList_append, List.append_assoc]
  rw [hsplit, cutAt?_eq_some_iff hsep, happend]
  refine and_congr_right fun _ => ⟨fun h b a heq => ?_, fun h b a heq => ?_⟩
  · rw [← String.length_toList, ← String.length_toList]
    exact h _ _ ((happend b a).1 heq)
  · have hle := h (String.ofList b) (String.ofList a)
      ((happend _ _).2 (by rwa [String.toList_ofList, String.toList_ofList]))
    rwa [← String.length_toList, ← String.length_toList, String.toList_ofList] at hle

/-- No match of a separator begins in a text that the separator follows. -/
def Clear (sep cs : List Char) : Prop :=
  ∀ t, t ≠ [] → t <:+ cs → ∀ rest, ¬ sep <+: t ++ (sep ++ rest)

/-- A clear text is cut off where it ends. -/
theorem cutAt?_of_clear {sep cs : List Char} (hsep : sep ≠ []) (h : Clear sep cs)
    (rest : List Char) : cutAt? sep (cs ++ (sep ++ rest)) = some (cs, rest) := by
  induction cs with
  | nil => exact cutAt?_append_self hsep rest
  | cons c cs ih =>
    have hstart : ¬ sep <+: c :: (cs ++ (sep ++ rest)) :=
      h (c :: cs) (List.cons_ne_nil c cs) List.suffix_rfl rest
    have hclear : Clear sep cs := fun t hne ht => h t hne (ht.trans (List.suffix_cons c cs))
    rw [List.cons_append, cutAt?_cons hstart, ih hclear]
    rfl

theorem Clear.no_match {sep cs : List Char} (hsep : sep ≠ []) (h : Clear sep cs) :
    ¬ sep <:+: cs := by
  rintro ⟨before, after, rfl⟩
  rw [List.append_assoc] at h
  refine h (sep ++ after) (by simp [hsep]) (List.suffix_append before _) [] ?_
  rw [List.append_assoc]
  exact List.prefix_append sep _

/-- A text without the first character of a separator is clear of it. -/
theorem clear_of_not_mem {c : Char} {w cs : List Char} (hc : c ∉ cs) : Clear (c :: w) cs := by
  intro t hne ht rest hpre
  obtain ⟨d, t, rfl⟩ := List.exists_cons_of_ne_nil hne
  obtain rfl : c = d := (List.cons_prefix_cons.1 hpre).1
  exact hc (ht.subset List.mem_cons_self)

/-- Text that shares no character with a separator neither makes nor moves a cut. -/
theorem cutAt?_surround {sep pre post : List Char} (hsep : sep ≠ []) (hpre : ∀ c ∈ pre, c ∉ sep)
    (hpost : ∀ c ∈ post, c ∉ sep) (cs : List Char) :
    cutAt? sep (pre ++ (cs ++ post)) =
      (cutAt? sep cs).map fun (before, after) => (pre ++ before, after ++ post) := by
  obtain ⟨d, w, rfl⟩ := List.exists_cons_of_ne_nil hsep
  induction pre with
  | nil =>
    cases hcut : cutAt? (d :: w) cs with
    | some cut => exact cutAt?_append hsep hcut post
    | none =>
      refine (cutAt?_eq_none_iff hsep).2 fun hin => (cutAt?_eq_none_iff hsep).1 hcut ?_
      cases post with
      | nil => simpa using hin
      | cons c post =>
        rcases infix_of_infix_append_cons (hpost c List.mem_cons_self) hin with hin | hin
        · exact hin
        · have hd : d ∈ c :: post := List.mem_cons_of_mem c (hin.subset List.mem_cons_self)
          exact absurd List.mem_cons_self (hpost d hd)
  | cons c pre ih =>
    have hstart : ¬ (d :: w) <+: c :: (pre ++ (cs ++ post)) := fun h =>
      hpre c List.mem_cons_self ((List.cons_prefix_cons.1 h).1 ▸ List.mem_cons_self)
    rw [List.cons_append, cutAt?_cons hstart, ih fun c h => hpre c (List.mem_cons_of_mem _ h),
      Option.map_map]
    rfl

/-! ### All cuts -/

theorem splitChars_of_no_match {sep cs : List Char} (hsep : sep ≠ []) (h : ¬ sep <:+: cs) :
    splitChars sep cs = [cs] := by
  have hnone := (cutAt?_eq_none_iff hsep).2 h
  rw [splitChars, dif_neg hsep]
  split
  · rfl
  · next hsome => exact absurd (hsome.symm.trans hnone) (Option.some_ne_none _)

theorem splitChars_of_cutAt? {sep cs before after : List Char} (hsep : sep ≠ [])
    (h : cutAt? sep cs = some (before, after)) :
    splitChars sep cs = before :: splitChars sep after := by
  rw [splitChars, dif_neg hsep]
  split
  · next hnone => exact absurd (h.symm.trans hnone) (Option.some_ne_none _)
  · next before' after' hsome =>
    obtain ⟨rfl, rfl⟩ : before' = before ∧ after' = after := by simpa using hsome.symm.trans h
    rfl

/-- Clear texts joined by a separator are cut where they were joined. -/
theorem splitChars_intercalate {sep : List Char} (hsep : sep ≠ []) :
    ∀ {texts : List (List Char)}, texts ≠ [] → (∀ cs ∈ texts, Clear sep cs) →
      splitChars sep (sep.intercalate texts) = texts
  | [], hne, _ => absurd rfl hne
  | [cs], _, hclear => by
    rw [List.intercalate_singleton]
    exact splitChars_of_no_match hsep ((hclear cs List.mem_cons_self).no_match hsep)
  | cs :: cs' :: texts, _, hclear => by
    rw [List.intercalate_cons_cons, List.append_assoc,
      splitChars_of_cutAt? hsep (cutAt?_of_clear hsep (hclear cs List.mem_cons_self) _),
      splitChars_intercalate hsep (List.cons_ne_nil cs' texts) fun cs h =>
        hclear cs (List.mem_cons_of_mem _ h)]

theorem split_intercalate {sep : String} (hsep : sep.toList ≠ []) {texts : List String}
    (hne : texts ≠ []) (hclear : ∀ t ∈ texts, Clear sep.toList t.toList) :
    split sep (sep.intercalate texts) = texts := by
  have hchars : ∀ cs ∈ texts.map String.toList, Clear sep.toList cs := by
    intro cs hcs
    obtain ⟨t, ht, rfl⟩ := List.mem_map.1 hcs
    exact hclear t ht
  rw [split, String.toList_intercalate,
    splitChars_intercalate hsep (by simpa using hne) hchars, List.map_map]
  simp [Function.comp_def]

/-! ### Pieces -/

theorem splitChars_ne_nil (sep cs : List Char) : splitChars sep cs ≠ [] := by
  rw [splitChars]
  split
  · exact List.cons_ne_nil cs []
  · split
    · exact List.cons_ne_nil cs []
    · exact List.cons_ne_nil _ _

/-- Joining the pieces of a text gives it back. -/
theorem intercalate_splitChars (sep cs : List Char) :
    sep.intercalate (splitChars sep cs) = cs := by
  by_cases hsep : sep = []
  · rw [splitChars, dif_pos hsep, List.intercalate_singleton]
  · cases hcut : cutAt? sep cs with
    | none =>
      rw [splitChars_of_no_match hsep ((cutAt?_eq_none_iff hsep).1 hcut),
        List.intercalate_singleton]
    | some cut =>
      obtain ⟨before, after⟩ := cut
      have hlt := length_lt_of_cutAt? hsep hcut
      rw [splitChars_of_cutAt? hsep hcut,
        List.intercalate_cons_of_ne_nil (splitChars_ne_nil sep after),
        intercalate_splitChars sep after]
      exact (eq_append_of_cutAt? hcut).symm
termination_by cs.length

/-- No match lies before the first one. -/
theorem no_match_of_cutAt? {sep cs before after : List Char} (hsep : sep ≠ [])
    (h : cutAt? sep cs = some (before, after)) : ¬ sep <:+: before := by
  rintro ⟨front, back, rfl⟩
  have heq : cs = front ++ (sep ++ (back ++ (sep ++ after))) := by
    rw [eq_append_of_cutAt? h]
    simp only [List.append_assoc]
  have hle := length_le_of_cutAt? hsep h heq
  have hpos := List.length_pos_iff.2 hsep
  simp only [List.length_append] at hle
  omega

/-- A piece is a part of the text in which the separator does not occur. -/
theorem mem_splitChars {sep cs piece : List Char} (hsep : sep ≠ [])
    (h : piece ∈ splitChars sep cs) : piece <:+: cs ∧ ¬ sep <:+: piece := by
  cases hcut : cutAt? sep cs with
  | none =>
    have hno := (cutAt?_eq_none_iff hsep).1 hcut
    rw [splitChars_of_no_match hsep hno, List.mem_singleton] at h
    rw [h]
    exact ⟨List.infix_rfl, hno⟩
  | some cut =>
    obtain ⟨before, after⟩ := cut
    have hlt := length_lt_of_cutAt? hsep hcut
    have heq := eq_append_of_cutAt? hcut
    rw [splitChars_of_cutAt? hsep hcut, List.mem_cons] at h
    rcases h with rfl | h
    · refine ⟨?_, no_match_of_cutAt? hsep hcut⟩
      rw [heq, List.append_assoc]
      exact (List.prefix_append piece _).isInfix
    · obtain ⟨hin, hno⟩ := mem_splitChars hsep h
      exact ⟨hin.trans (heq ▸ (List.suffix_append _ after).isInfix), hno⟩
termination_by cs.length

theorem split_ne_nil (sep s : String) : split sep s ≠ [] :=
  List.map_eq_nil_iff.not.2 (splitChars_ne_nil _ _)

theorem intercalate_split (sep s : String) : sep.intercalate (split sep s) = s := by
  rw [← String.toList_inj, String.toList_intercalate, split, List.map_map]
  simp only [Function.comp_def, String.toList_ofList, List.map_id']
  exact intercalate_splitChars _ _

theorem mem_split {sep s piece : String} (hsep : sep.toList ≠ []) (h : piece ∈ split sep s) :
    piece.toList <:+: s.toList ∧ ¬ sep.toList <:+: piece.toList := by
  obtain ⟨cs, hcs, rfl⟩ := List.mem_map.1 h
  rw [String.toList_ofList]
  exact mem_splitChars hsep hcs

/-! ### Characters replaced -/

section Replaced

variable {f : Char → Char} {sep : List Char} (hsep : ∀ d ∈ sep, ∀ c, f c = d ↔ c = d)

include hsep

/-- Replacing characters without making or unmaking one of a separator changes no match of it. -/
theorem isPrefixOf?_map : ∀ cs : List Char,
    sep.isPrefixOf? (cs.map f) = (sep.isPrefixOf? cs).map (List.map f) := by
  induction sep with
  | nil => exact fun cs => by cases cs <;> rfl
  | cons d w ih =>
    intro cs
    cases cs with
    | nil => rfl
    | cons c cs =>
      have hd : (d == f c) = (d == c) := by
        rw [Bool.eq_iff_iff, beq_iff_eq, beq_iff_eq, eq_comm, hsep d List.mem_cons_self, eq_comm]
      have hw := ih (fun e he => hsep e (List.mem_cons_of_mem d he)) cs
      simp only [List.map_cons, List.isPrefixOf?, hd, hw]
      split <;> rfl

theorem cutAt?_map (cs : List Char) :
    cutAt? sep (cs.map f) =
      (cutAt? sep cs).map fun (before, after) => (before.map f, after.map f) := by
  induction cs with
  | nil =>
    simp only [List.map_nil, cutAt?]
    split <;> rfl
  | cons c cs ih =>
    have hstart := isPrefixOf?_map hsep (c :: cs)
    simp only [List.map_cons] at hstart
    simp only [List.map_cons, cutAt?, hstart, ih]
    cases sep.isPrefixOf? (c :: cs) with
    | some rest => rfl
    | none => cases cutAt? sep cs <;> rfl

theorem splitChars_map (cs : List Char) :
    splitChars sep (cs.map f) = (splitChars sep cs).map (List.map f) := by
  by_cases hne : sep = []
  · rw [splitChars, dif_pos hne, splitChars, dif_pos hne, List.map_singleton]
  · have hcut := cutAt?_map hsep cs
    cases hcs : cutAt? sep cs with
    | none =>
      rw [hcs, Option.map_none] at hcut
      rw [splitChars_of_no_match hne ((cutAt?_eq_none_iff hne).1 hcut),
        splitChars_of_no_match hne ((cutAt?_eq_none_iff hne).1 hcs), List.map_singleton]
    | some cut =>
      obtain ⟨before, after⟩ := cut
      rw [hcs, Option.map_some] at hcut
      have hlt := length_lt_of_cutAt? hne hcs
      rw [splitChars_of_cutAt? hne hcut, splitChars_of_cutAt? hne hcs, List.map_cons,
        splitChars_map after]
termination_by cs.length

end Replaced

/-! ### Trimmed pieces -/

/-- White space around a text does not change the trimmed pieces. -/
theorem map_trimChars_splitChars {sep pre post : List Char} (hsep : sep ≠ [])
    (hshown : ∀ d ∈ sep, isBlank d = false) (hpre : Blank pre) (hpost : Blank post)
    (cs : List Char) :
    (splitChars sep (pre ++ (cs ++ post))).map trimChars =
      (splitChars sep cs).map trimChars := by
  have hapart : ∀ {bs : List Char}, Blank bs → ∀ d ∈ bs, d ∉ sep :=
    fun hbs d hd hmem => by simpa [hbs d hd] using hshown d hmem
  have hcut := cutAt?_surround hsep (hapart hpre) (hapart hpost) cs
  cases hcs : cutAt? sep cs with
  | none =>
    rw [hcs, Option.map_none] at hcut
    rw [splitChars_of_no_match hsep ((cutAt?_eq_none_iff hsep).1 hcut),
      splitChars_of_no_match hsep ((cutAt?_eq_none_iff hsep).1 hcs), List.map_singleton,
      List.map_singleton, trimChars_append_blank hpre cs hpost]
  | some cut =>
    obtain ⟨before, after⟩ := cut
    rw [hcs, Option.map_some] at hcut
    have hlt := length_lt_of_cutAt? hsep hcs
    have hrest := map_trimChars_splitChars hsep hshown blank_nil hpost after
    rw [splitChars_of_cutAt? hsep hcut, splitChars_of_cutAt? hsep hcs, List.map_cons,
      List.map_cons, trimChars_blank_append hpre]
    exact congrArg _ hrest
termination_by cs.length

/-! ### Words between spaces -/

/-- A word with a space on either side. -/
def spaced (w : List Char) : List Char :=
  ' ' :: (w ++ [' '])

theorem spaced_ne_nil (w : List Char) : spaced w ≠ [] :=
  List.cons_ne_nil ' ' (w ++ [' '])

/-- Two matches of a word between spaces share one space at most. -/
theorem eq_space_of_border {w t s : List Char} (hw : ' ' ∉ w) (ht : t ≠ []) (hs : s ≠ [])
    (heq : spaced w = t ++ s) {rest : List Char} (hpre : s <+: spaced w ++ rest) :
    t = ' ' :: w := by
  obtain ⟨c, t, rfl⟩ := List.exists_cons_of_ne_nil ht
  obtain ⟨d, s, rfl⟩ := List.exists_cons_of_ne_nil hs
  obtain rfl : d = ' ' := (List.cons_prefix_cons.1 hpre).1
  obtain ⟨rfl, htail⟩ : ' ' = c ∧ w ++ [' '] = t ++ ' ' :: s := by simpa [spaced] using heq
  rcases List.eq_nil_or_concat s with rfl | ⟨s, x, rfl⟩
  · rw [List.append_cancel_right htail]
  · -- otherwise the word itself has a space
    have hword : w = t ++ ' ' :: s := by
      have hinit : w ++ [' '] = (t ++ ' ' :: s) ++ [x] := by simpa using htail
      exact List.append_inj_left' hinit rfl
    exact absurd (hword ▸ by simp) hw

/-- A text without a match is clear unless it ends in a space and the word. -/
theorem clear_spaced {w cs : List Char} (hw : ' ' ∉ w) (hno : ¬ spaced w <:+: cs)
    (hend : ¬ (' ' :: w) <:+ cs) : Clear (spaced w) cs := by
  intro t hne ht rest hpre
  rcases List.prefix_or_prefix_of_prefix hpre (List.prefix_append t _) with hin | ⟨s, hs⟩
  · exact hno (hin.isInfix.trans ht.isInfix)
  · rw [← hs, List.prefix_append_right_inj, hs] at hpre
    rcases eq_or_ne s [] with rfl | hsne
    · rw [List.append_nil] at hs
      exact hno (hs ▸ ht.isInfix)
    · exact hend (eq_space_of_border hw hne hsne hs.symm hpre ▸ ht)

/-- The word does not stand between spaces in the text, nor between a space and one of its ends. -/
def Bare (w cs : List Char) : Prop :=
  ¬ spaced w <:+: ' ' :: (cs ++ [' '])

theorem Bare.no_match {w cs : List Char} (h : Bare w cs) : ¬ spaced w <:+: cs :=
  fun hin => h (hin.trans ⟨[' '], [' '], rfl⟩)

theorem Bare.clear {w cs : List Char} (hw : ' ' ∉ w) (h : Bare w cs) : Clear (spaced w) cs := by
  refine clear_spaced hw h.no_match ?_
  rintro ⟨front, rfl⟩
  refine h ⟨' ' :: front, [], ?_⟩
  simp [spaced]

/-- Joining texts by one word does not bring about another that shares no letter with it. -/
theorem Bare.intercalate {w mid : List Char} (hmid : mid ≠ [])
    (hapart : ∀ c ∈ mid, c ∉ spaced w) :
    ∀ {texts : List (List Char)}, texts ≠ [] → (∀ cs ∈ texts, Bare w cs) →
      Bare w ((spaced mid).intercalate texts)
  | [], hne, _ => absurd rfl hne
  | [cs], _, h => by
    rw [List.intercalate_singleton]
    exact h cs List.mem_cons_self
  | cs :: cs' :: texts, _, h => by
    intro hin
    have hshape : ' ' :: ((spaced mid).intercalate (cs :: cs' :: texts) ++ [' ']) =
        (' ' :: (cs ++ [' '])) ++
          (mid ++ (' ' :: ((spaced mid).intercalate (cs' :: texts) ++ [' ']))) := by
      simp [spaced, List.intercalate_cons_cons]
    rw [hshape] at hin
    rcases infix_of_infix_append_append hmid hapart hin with hin | hin
    · exact h cs List.mem_cons_self hin
    · exact Bare.intercalate hmid hapart (List.cons_ne_nil cs' texts)
        (fun ds hds => h ds (List.mem_cons_of_mem cs hds)) hin

/-- A text in front of a word between spaces is cut as on its own, and so is what follows. -/
theorem splitChars_append_spaced {w : List Char} (hw : ' ' ∉ w) (cs rest : List Char)
    (hend : ¬ (' ' :: w) <:+ cs) :
    splitChars (spaced w) (cs ++ (spaced w ++ rest)) =
      splitChars (spaced w) cs ++ splitChars (spaced w) rest := by
  have hsep := spaced_ne_nil w
  cases hcut : cutAt? (spaced w) cs with
  | none =>
    have hno := (cutAt?_eq_none_iff hsep).1 hcut
    rw [splitChars_of_cutAt? hsep (cutAt?_of_clear hsep (clear_spaced hw hno hend) rest),
      splitChars_of_no_match hsep hno]
    rfl
  | some cut =>
    obtain ⟨before, after⟩ := cut
    have heq := eq_append_of_cutAt? hcut
    have hend' : ¬ (' ' :: w) <:+ after :=
      fun h => hend (h.trans (heq ▸ List.suffix_append _ after))
    have hlt := length_lt_of_cutAt? hsep hcut
    rw [splitChars_of_cutAt? hsep (cutAt?_append hsep hcut _), splitChars_of_cutAt? hsep hcut,
      splitChars_append_spaced hw after rest hend', List.cons_append]
termination_by cs.length

end ScanQuery.Text
