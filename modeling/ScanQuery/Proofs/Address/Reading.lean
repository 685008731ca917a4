import ScanQuery.Address
import ScanQuery.Proofs.Address.Grammar
import ScanQuery.Proofs.Text.Case
import ScanQuery.Proofs.Text.Runs

/-!
Reading addresses. Each reader takes a text of its part of the grammar from the start of what is
left, and takes every such text if nothing follows that would make it longer. A run of groups ends
where the text does or at a double colon, since no group begins at a colon. Hexadecimal digits in
front of a colon are not the start of four octets, so trying these first loses no address; and the
octets that a run may end with are tried only where they are the last two groups of the eight.
-/

namespace ScanQuery.Address

variable {c : Char} {cs ds rest : List Char}

/-! ### Octets -/

/-- The digits are not too few, not too many, not too large and not behind a superfluous zero. -/
theorem octet_checks_iff {digits : List Char} :
    (digits.isEmpty || 3 < digits.length || 255 < Text.digitsValue digits ||
      (digits.head? == some '0' && 1 < digits.length)) = false ↔
      digits ≠ [] ∧ digits.length ≤ 3 ∧ Text.digitsValue digits < 256 ∧
        (digits.head? = some '0' → digits.length ≤ 1) := by
  simp only [Bool.or_eq_false_iff, Bool.and_eq_false_imp, List.isEmpty_eq_false_iff,
    decide_eq_false_iff_not, beq_iff_eq, Nat.not_lt, and_assoc, Nat.lt_succ_iff]

/-- What is read as an octet is a number of eight bits as it is written. -/
theorem octetRest?_eq_some {v : Nat} (h : octetRest? cs = some (v, rest)) :
    v < 256 ∧ cs = Nat.toDigits 10 v ++ rest := by
  simp only [octetRest?] at h
  split at h
  · exact nomatch h
  · next hchecks =>
    obtain ⟨rfl, rfl⟩ := Prod.mk.inj (Option.some_inj.1 h)
    obtain ⟨hne, -, hvalue, hzero⟩ := octet_checks_iff.1 (Bool.eq_false_of_not_eq_true hchecks)
    have hwritten := Text.toDigits_digitsValue
      ⟨hne, fun c hc => List.mem_takeWhile_imp hc⟩ fun hhead =>
        Nat.le_antisymm (hzero hhead) (List.length_pos_iff.2 hne)
    exact ⟨hvalue, by rw [hwritten, List.takeWhile_append_dropWhile]⟩

/-- A number of eight bits is read up to a character that is no digit. -/
theorem octetRest?_toDigits {v : Nat} (hv : v < 256)
    (hrest : ∀ c ∈ rest.head?, c.isDigit = false) :
    octetRest? (Nat.toDigits 10 v ++ rest) = some (v, rest) := by
  have hdigits := Text.digits_toDigits v
  have hvalue : Text.digitsValue (Nat.toDigits 10 v) = v := by
    rw [Text.digitsValue_eq_placeValue, Text.placeValue_toDigits]
  have hlength : (Nat.toDigits 10 v).length ≤ 3 :=
    (Nat.length_toDigits_le_iff (by decide) (by decide)).2 (by omega)
  have hzero : (Nat.toDigits 10 v).head? = some '0' → (Nat.toDigits 10 v).length ≤ 1 := by
    intro hhead
    rw [Text.eq_zero_of_head?_toDigits hhead]
    decide
  have hchecks := octet_checks_iff.2 ⟨hdigits.1, hlength, hvalue.symm ▸ hv, hzero⟩
  simp only [octetRest?, Text.takeWhile_append_of_head hdigits.2 hrest,
    Text.dropWhile_append_of_head hdigits.2 hrest]
  rw [hchecks, hvalue, if_neg Bool.false_ne_true]

theorem after?_eq_some_iff : after? c cs = some rest ↔ cs = c :: rest := by
  cases cs with
  | nil => simp [after?]
  | cons d cs =>
    rw [after?]
    split
    · next h => simp [h]
    · next h => simp [h]

/-- What is read as four octets is written in dotted decimal. -/
theorem v4Rest?_eq_some {octets : Nat × Nat × Nat × Nat}
    (h : v4Rest? cs = some (octets, rest)) :
    ∃ a b c d : Fin 256, octets = (a.val, b.val, c.val, d.val) ∧
      cs = (dotted a b c d).toList ++ rest := by
  simp only [v4Rest?, Option.bind_eq_bind, Option.bind_eq_some_iff, Prod.exists, Option.pure_def,
    Option.some_inj, after?_eq_some_iff, Prod.mk.injEq] at h
  obtain ⟨a, _, hfirst, _, rfl, b, _, hsecond, _, rfl, c, _, hthird, _, rfl, d, _, hfourth, rfl,
    rfl⟩ := h
  obtain ⟨ha, rfl⟩ := octetRest?_eq_some hfirst
  obtain ⟨hb, rfl⟩ := octetRest?_eq_some hsecond
  obtain ⟨hc, rfl⟩ := octetRest?_eq_some hthird
  obtain ⟨hd, rfl⟩ := octetRest?_eq_some hfourth
  refine ⟨⟨a, ha⟩, ⟨b, hb⟩, ⟨c, hc⟩, ⟨d, hd⟩, rfl, ?_⟩
  simp only [toList_dotted, List.append_assoc, List.cons_append]

/-- Four octets are read up to a character that is no digit. -/
theorem v4Rest?_dotted (a b c d : Fin 256) (hrest : ∀ e ∈ rest.head?, e.isDigit = false) :
    v4Rest? ((dotted a b c d).toList ++ rest) = some ((a.val, b.val, c.val, d.val), rest) := by
  have hpoint : ∀ (o : Fin 256) (more : List Char),
      octetRest? (Nat.toDigits 10 o ++ '.' :: more) = some (o.val, '.' :: more) := by
    refine fun o more => octetRest?_toDigits o.isLt fun e he => ?_
    obtain rfl : '.' = e := Option.some_inj.1 he
    rfl
  simp only [toList_dotted, List.append_assoc, List.cons_append, v4Rest?, hpoint,
    octetRest?_toDigits d.isLt hrest, Option.bind_eq_bind, Option.bind_some,
    after?_eq_some_iff.2 rfl, Option.pure_def]

/-- Without a point behind the first digits there are no four octets. -/
theorem v4Rest?_eq_none (h : (cs.dropWhile Char.isDigit).head? ≠ some '.') :
    v4Rest? cs = none := by
  cases hread : v4Rest? cs with
  | none => rfl
  | some read =>
    obtain ⟨a, b, c, d, -, hcs⟩ := v4Rest?_eq_some hread
    refine absurd ?_ h
    rw [hcs, toList_dotted, List.append_assoc, List.cons_append,
      Text.dropWhile_append_of_head (Text.digits_toDigits a).2 (by simp)]
    rfl

/-! ### Groups -/

instance (v : Nat) : Decidable (HexDigit c v) :=
  inferInstanceAs (Decidable (_ ∧ _))

theorem toNat_lt_of_hexValue? {v : Nat} (h : hexValue? c = some v) : c.toNat < 0x80 := by
  by_contra hlarge
  have hlower := Text.toLower_of_not_ascii hlarge
  simp only [hexValue?, hlower] at h
  split at h
  · next hdigit =>
    have hrange := Text.toNat_of_isDigit hdigit
    omega
  · split at h
    · next hletter =>
      have hle : c.toNat ≤ 102 := by simpa [Char.le_def, UInt32.le_iff_toNat_le] using hletter.2
      omega
    · exact nomatch h

theorem hexValue?_eq_some_iff {v : Nat} : hexValue? c = some v ↔ HexDigit c v := by
  constructor
  · intro h
    refine Text.forall_ascii (P := fun c => ∀ v ∈ hexValue? c, HexDigit c v) ?_
      (toNat_lt_of_hexValue? h) v h
    decide +kernel
  · rintro ⟨hv, rfl | rfl⟩
    · revert v
      decide
    · revert v
      decide

/-- Reading digits from the left adds up their places. -/
theorem foldl_hexValue? {values : List Nat} (h : List.Forall₂ HexDigit ds values) :
    ds.foldl (fun n c => 16 * n + (hexValue? c).getD 0) 0 = Nat.ofDigits 16 values.reverse := by
  have hvalues : ds.map (fun c => (hexValue? c).getD 0) = values := by
    induction h with
    | nil => rfl
    | cons hc _ ih => rw [List.map_cons, ih, hexValue?_eq_some_iff.2 hc, Option.getD_some]
  rw [Text.foldl_eq_ofDigits, hvalues]

theorem forall₂_hexDigit (h : ∀ c ∈ ds, (hexValue? c).isSome = true) :
    List.Forall₂ HexDigit ds (ds.map fun c => (hexValue? c).getD 0) := by
  rw [List.forall₂_map_right_iff, List.forall₂_same]
  intro c hc
  obtain ⟨v, hv⟩ := Option.isSome_iff_exists.1 (h c hc)
  rw [hv]
  exact hexValue?_eq_some_iff.1 hv

theorem GroupText.isSome_hexValue? {g : Nat} (h : GroupText ds g) :
    ∀ c ∈ ds, (hexValue? c).isSome = true := by
  obtain ⟨-, -, values, hvalues, -⟩ := h
  clear * - hvalues
  induction hvalues with
  | nil => exact fun c hc => nomatch hc
  | cons hc _ ih =>
    rintro c (_ | ⟨_, hmem⟩)
    · rw [hexValue?_eq_some_iff.2 hc]
      rfl
    · exact ih c hmem

/-- What follows a group is no digit of it. -/
def EndsGroup (rest : List Char) : Prop :=
  ∀ c ∈ rest.head?, (hexValue? c).isSome = false

theorem groupRest?_append {g : Nat} (h : GroupText ds g) (hrest : EndsGroup rest) :
    groupRest? (ds ++ rest) = some (g, rest) := by
  have hdigits := Text.takeWhile_append_of_head h.isSome_hexValue? hrest
  obtain ⟨hne, hlength, values, hvalues, rfl⟩ := h
  simp only [groupRest?, hdigits, foldl_hexValue? hvalues, List.drop_left]
  rw [if_neg]
  simp only [Bool.or_eq_true, List.isEmpty_iff, decide_eq_true_eq, not_or]
  exact ⟨hne, Nat.not_lt.2 hlength⟩

theorem groupRest?_eq_some {g : Nat} (h : groupRest? cs = some (g, rest)) :
    ∃ ds, cs = ds ++ rest ∧ GroupText ds g := by
  simp only [groupRest?] at h
  split at h
  · exact nomatch h
  · next hchecks =>
    obtain ⟨rfl, rfl⟩ := Prod.mk.inj (Option.some_inj.1 h)
    simp only [Bool.or_eq_true, List.isEmpty_iff, decide_eq_true_eq, not_or,
      Nat.not_lt] at hchecks
    have hdigits : ∀ c ∈ cs.takeWhile fun c => (hexValue? c).isSome, (hexValue? c).isSome = true :=
      fun c hc => List.mem_takeWhile_imp (p := fun c => (hexValue? c).isSome) hc
    have hhex := forall₂_hexDigit hdigits
    exact ⟨_, (List.prefix_iff_eq_append.1 (List.takeWhile_prefix _)).symm, hchecks.1, hchecks.2, _,
      hhex, foldl_hexValue? hhex⟩

/-! ### Runs of groups -/

/-- What stands in front of the groups of a run. -/
def lead (first : Bool) : List Char :=
  if first then [] else [':']

theorem after_lead_iff {first : Bool} :
    (if first then some cs else after? ':' cs) = some rest ↔ cs = lead first ++ rest := by
  cases first with
  | true => simp [lead]
  | false => simp [lead, after?_eq_some_iff]

/-- A run takes nothing, or the text of its groups from where it starts. -/
def Took (first : Bool) (cs : List Char) (run : Groups) : Prop :=
  run = ⟨[], false, cs⟩ ∨
    ∃ used, cs = lead first ++ (used ++ run.rest) ∧ GroupsText run.endsInV4 used run.groups

theorem readGroups_took (first : Bool) (limit : Nat) (cs : List Char) :
    Took first cs (readGroups first limit cs) := by
  -- The run goes on behind a group as one that is not the first, on what the group left.
  induction limit generalizing first cs with
  | zero => exact .inl rfl
  | succ limit ih =>
    simp only [readGroups]
    split
    · exact .inl rfl
    · next body hbody =>
      obtain rfl := after_lead_iff.1 hbody
      split
      · next a b c d rest hoctets =>
        have hread : v4Rest? body = some ((a, b, c, d), rest) := by
          split at hoctets
          · exact hoctets
          · exact nomatch hoctets
        obtain ⟨a, b, c, d, heq, hdotted⟩ := v4Rest?_eq_some hread
        simp only [Prod.mk.injEq] at heq
        obtain ⟨rfl, rfl, rfl, rfl⟩ := heq
        exact .inr ⟨_, congrArg _ hdotted, .octets rfl a b c d⟩
      · split
        · exact .inl rfl
        · next g rest hgroup =>
          obtain ⟨ds, rfl, htext⟩ := groupRest?_eq_some hgroup
          -- A colon without a group behind it is given back, and the group stands alone.
          rcases ih false rest with hmore | ⟨used, hused, hmore⟩
          · rw [hmore]
            exact .inr ⟨ds, rfl, .single htext⟩
          · refine .inr ⟨ds ++ ':' :: used, ?_, .cons htext hmore⟩
            conv_lhs => rw [hused]
            simp [lead]

theorem length_readGroups_le (first : Bool) (limit : Nat) (cs : List Char) :
    (readGroups first limit cs).groups.length ≤ limit := by
  induction limit generalizing first cs with
  | zero => exact Nat.le_refl 0
  | succ limit ih =>
    simp only [readGroups]
    split
    · exact Nat.zero_le _
    · split
      · next hoctets =>
        split at hoctets
        · next hroom => exact Nat.succ_le_succ hroom
        · exact nomatch hoctets
      · split
        · exact Nat.zero_le _
        · exact Nat.succ_le_succ (ih false _)

/-- The text is at its end or at a colon. -/
def AtColon (cs : List Char) : Prop :=
  ∀ c ∈ cs.head?, c = ':'

theorem AtColon.not_isDigit (h : AtColon rest) : ∀ c ∈ rest.head?, c.isDigit = false := by
  intro c hc
  rw [h c hc]
  rfl

theorem AtColon.endsGroup (h : AtColon rest) : EndsGroup rest := by
  intro c hc
  rw [h c hc]
  decide

theorem atColon_nil : AtColon [] :=
  fun _ hc => nomatch hc

theorem atColon_cons (cs : List Char) : AtColon (':' :: cs) :=
  fun _ hc => (Option.some_inj.1 hc).symm

/-- Hexadecimal digits in front of a colon are no octets. -/
theorem AtColon.v4Rest?_append (hds : ∀ c ∈ ds, (hexValue? c).isSome = true) (h : AtColon rest) :
    v4Rest? (ds ++ rest) = none := by
  refine v4Rest?_eq_none ?_
  induction ds with
  | nil =>
    intro hpoint
    cases rest with
    | nil => exact nomatch hpoint
    | cons c rest =>
      obtain rfl := h c rfl
      exact nomatch hpoint
  | cons c ds ih =>
    by_cases hdigit : c.isDigit = true
    · rw [List.cons_append, List.dropWhile_cons_of_pos hdigit]
      exact ih fun d hd => hds d (List.mem_cons_of_mem c hd)
    · rw [List.cons_append, List.dropWhile_cons_of_neg hdigit]
      intro hpoint
      obtain rfl : c = '.' := Option.some_inj.1 hpoint
      exact absurd (hds '.' List.mem_cons_self) (by decide)

theorem AtColon.groupRest?_eq_none (h : AtColon rest) : groupRest? rest = none := by
  rw [groupRest?, Text.takeWhile_of_head h.endsGroup]
  rfl

/-- No group follows: the text is at its end or at a double colon. -/
def Stops (cs : List Char) : Prop :=
  cs = [] ∨ ∃ more, cs = ':' :: ':' :: more

theorem Stops.atColon (h : Stops cs) : AtColon cs := by
  obtain rfl | ⟨more, rfl⟩ := h
  · exact atColon_nil
  · exact atColon_cons _

theorem Stops.atColon_of_lead (h : Stops rest) {first : Bool} (hlead : rest = lead first ++ cs) :
    AtColon cs := by
  cases first with
  | true =>
    obtain rfl : rest = cs := hlead
    exact h.atColon
  | false =>
    obtain rfl | ⟨more, rfl⟩ := h
    · exact nomatch hlead
    · obtain rfl : ':' :: more = cs := (List.cons_eq_cons.1 hlead).2
      exact atColon_cons more

/-- A run takes nothing where no group follows. -/
theorem Stops.readGroups (h : Stops rest) (first : Bool) (limit : Nat) :
    readGroups first limit rest = ⟨[], false, rest⟩ := by
  cases limit with
  | zero => rfl
  | succ limit =>
    rw [Address.readGroups]
    split
    · rfl
    · next body hbody =>
      have hcolon := h.atColon_of_lead (after_lead_iff.1 hbody)
      have hoctets : v4Rest? ([] ++ body) = none :=
        hcolon.v4Rest?_append fun _ hc => nomatch hc
      rw [List.nil_append] at hoctets
      rw [hoctets, ite_self, hcolon.groupRest?_eq_none]

/-- One group is taken, and then what the run takes behind it. -/
theorem readGroups_group {g : Nat} (h : GroupText ds g) (hrest : AtColon rest) (first : Bool)
    (limit : Nat) :
    readGroups first (limit + 1) (lead first ++ (ds ++ rest)) =
      ⟨g :: (readGroups false limit rest).groups, (readGroups false limit rest).endsInV4,
        (readGroups false limit rest).rest⟩ := by
  have hoctets : (if 1 ≤ limit then v4Rest? (ds ++ rest) else none) = none := by
    split
    · exact hrest.v4Rest?_append h.isSome_hexValue?
    · rfl
  rw [readGroups, after_lead_iff.2 rfl]
  simp only [hoctets, groupRest?_append h hrest.endsGroup]

/-- A run takes the groups that are written where it starts. -/
theorem GroupsText.readGroups {free : Bool} {gs : List Nat} (h : GroupsText free ds gs)
    (first : Bool) {limit : Nat} (hlimit : gs.length ≤ limit) (hrest : Stops rest) :
    ∃ v4, (free = false → v4 = false) ∧
      readGroups first limit (lead first ++ (ds ++ rest)) = ⟨gs, v4, rest⟩ := by
  -- Each group uses one of the limit, and octets need two: the second is the room left for them.
  induction h generalizing first limit with
  | @single ds g htext =>
    obtain ⟨limit, rfl⟩ := Nat.exists_eq_succ_of_ne_zero (Nat.ne_zero_of_lt hlimit)
    refine ⟨false, fun _ => rfl, ?_⟩
    rw [readGroups_group htext hrest.atColon, hrest.readGroups]
  | octets hfree a b c d =>
    obtain ⟨limit, rfl⟩ := Nat.exists_eq_succ_of_ne_zero (Nat.ne_zero_of_lt hlimit)
    have hroom : 1 ≤ limit := Nat.le_of_succ_le_succ hlimit
    refine ⟨true, fun hclosed => absurd (hfree.symm.trans hclosed) (by decide), ?_⟩
    rw [Address.readGroups, after_lead_iff.2 rfl]
    simp only [if_pos hroom, v4Rest?_dotted a b c d hrest.atColon.not_isDigit]
  | @cons ds es g gs htext _ ih =>
    obtain ⟨limit, rfl⟩ := Nat.exists_eq_succ_of_ne_zero (Nat.ne_zero_of_lt hlimit)
    obtain ⟨v4, hv4, hread⟩ := ih false (Nat.le_of_succ_le_succ hlimit)
    have hcolon : AtColon (lead false ++ (es ++ rest)) := atColon_cons _
    have hgroup := readGroups_group htext hcolon first limit
    refine ⟨v4, hv4, ?_⟩
    rw [hread] at hgroup
    rw [List.append_assoc]
    exact hgroup

/-! ### Version 6 -/

theorem Took.exists_side {run : Groups} (h : Took true cs run) :
    ∃ used, cs = used ++ run.rest ∧ SideText run.endsInV4 used run.groups := by
  obtain rfl | ⟨used, hused, htext⟩ := h
  · exact ⟨[], rfl, .inl ⟨rfl, rfl⟩⟩
  · exact ⟨used, hused, .inr htext⟩

theorem SideText.of_closed {free : Bool} {gs : List Nat} (h : SideText free cs gs) :
    SideText true cs gs :=
  h.imp id GroupsText.of_closed

theorem SideText.readGroups {free : Bool} {gs : List Nat} (h : SideText free ds gs)
    {limit : Nat} (hlimit : gs.length ≤ limit) (hrest : Stops rest) :
    ∃ v4, (free = false → v4 = false) ∧
      readGroups true limit (ds ++ rest) = ⟨gs, v4, rest⟩ := by
  obtain ⟨rfl, rfl⟩ | htext := h
  · exact ⟨false, fun _ => rfl, hrest.readGroups true limit⟩
  · exact htext.readGroups true hlimit hrest

/-- What is read as eight groups is a text of eight groups. -/
theorem eightGroups_of_v6Rest? {gs : List Nat} (h : v6Rest? cs = some (gs, [])) :
    EightGroups cs gs := by
  obtain ⟨used, hcs, hfront⟩ := (readGroups_took true 8 cs).exists_side
  have hle := length_readGroups_le true 8 cs
  simp only [v6Rest?] at h
  generalize readGroups true 8 cs = front at *
  split at h
  · next height =>
    obtain ⟨rfl, hrest⟩ := Prod.mk.inj (Option.some_inj.1 h)
    rw [hrest, List.append_nil] at hcs
    obtain ⟨-, hnil⟩ | htext := hfront
    · rw [hnil] at height
      exact nomatch height
    · exact hcs ▸ .whole htext.of_closed height
  · next height =>
    split at h
    · exact nomatch h
    · next hclosed =>
      rw [Bool.eq_false_of_not_eq_true hclosed] at hfront
      simp only [Option.bind_eq_bind, Option.bind_eq_some_iff, after?_eq_some_iff, Option.pure_def,
        Option.some_inj, Prod.mk.injEq] at h
      obtain ⟨_, hrest, back, rfl, rfl, hend⟩ := h
      obtain ⟨used', hback, htext⟩ :=
        (readGroups_took true (7 - front.groups.length) back).exists_side
      have hle' := length_readGroups_le true (7 - front.groups.length) back
      rw [hend, List.append_nil] at hback
      rw [hcs, hrest]
      exact .elided hfront (hback ▸ htext.of_closed) (by omega) (by omega)

/-- A text of eight groups is read as them. -/
theorem EightGroups.v6Rest?_eq {gs : List Nat} (h : EightGroups cs gs) :
    v6Rest? cs = some (gs, []) := by
  cases h with
  | whole htext hlength =>
    obtain ⟨v4, -, hread⟩ := htext.readGroups true (Nat.le_of_eq hlength) (.inl rfl)
    have hread : readGroups true 8 cs = ⟨gs, v4, []⟩ := by simpa [lead] using hread
    simp only [v6Rest?, hread, if_pos hlength]
  | @elided cs ds gs hs zeros hfront hback hzeros hlength =>
    have hroom : gs.length ≤ 8 := by omega
    have hroom' : hs.length ≤ 7 - gs.length := by omega
    obtain ⟨v4, hclosed, hread⟩ := hfront.readGroups hroom (.inr ⟨ds, rfl⟩)
    obtain ⟨v4', -, hread'⟩ := hback.readGroups hroom' (.inl rfl)
    have hshort : ¬ gs.length = 8 := by omega
    have hcount : 8 - gs.length - hs.length = zeros := by omega
    rw [List.append_nil] at hread'
    simp only [v6Rest?, hread, hclosed rfl, if_neg hshort, if_neg Bool.false_ne_true,
      after?_eq_some_iff.2 rfl, Option.bind_eq_bind, Option.bind_some, hread', hcount,
      Option.pure_def]

/-- Unless groups are the octets alone, their first one ends at a colon or where they do. -/
theorem GroupsText.v4Rest?_append {free : Bool} {gs : List Nat} (h : GroupsText free ds gs)
    (hoctets : free = true → gs.length ≠ 2) (hrest : AtColon rest) :
    v4Rest? (ds ++ rest) = none := by
  cases h with
  | single htext => exact hrest.v4Rest?_append htext.isSome_hexValue?
  | octets hfree => exact absurd rfl (hoctets hfree)
  | cons htext _ =>
    rw [List.append_assoc]
    exact (atColon_cons _).v4Rest?_append htext.isSome_hexValue?

theorem EightGroups.v4Rest?_eq_none {gs : List Nat} (h : EightGroups cs gs) :
    v4Rest? cs = none := by
  cases h with
  | whole htext hlength =>
    have hnone := htext.v4Rest?_append (fun _ => by omega) atColon_nil
    rwa [List.append_nil] at hnone
  | elided hfront _ _ _ =>
    obtain ⟨rfl, -⟩ | htext := hfront
    · exact (atColon_cons _).v4Rest?_append fun _ hc => nomatch hc
    · exact htext.v4Rest?_append (fun hfree => nomatch hfree) (atColon_cons _)

theorem groupsValue_eq (gs : List Nat) : groupsValue gs = Nat.ofDigits (2 ^ 16) gs.reverse := by
  have hplaces := Text.foldl_eq_ofDigits 0x10000 id gs
  rwa [List.map_id] at hplaces

theorem v4Value_eq (a b c d : Fin 256) :
    v4Value a b c d = 0xFFFF * 2 ^ 32 + number a b c d := by
  simp only [v4Value, groupsValue, List.foldl_cons, List.foldl_nil, number]
  omega

/-! ### Addresses -/

/-- The texts that have a value are, up to white space, the addresses, and it is theirs. -/
theorem value?_eq_some_iff {text : String} {n : Nat} :
    value? text = some n ↔ Denotes (Text.trimChars text.toList) n := by
  unfold value?
  generalize Text.trimChars text.toList = cs
  constructor
  · intro h
    dsimp only at h
    split at h
    · next a b c d rest hread =>
      split at h
      · next hend =>
        obtain rfl := List.isEmpty_iff.1 hend
        obtain ⟨a, b, c, d, heq, hcs⟩ := v4Rest?_eq_some hread
        simp only [Prod.mk.injEq] at heq
        obtain ⟨rfl, rfl, rfl, rfl⟩ := heq
        obtain rfl := Option.some_inj.1 h
        rw [v4Value_eq, hcs, List.append_nil]
        exact .octets a b c d
      · exact nomatch h
    · split at h
      · next gs rest hread =>
        split at h
        · next hend =>
          obtain rfl := List.isEmpty_iff.1 hend
          obtain rfl := Option.some_inj.1 h
          rw [groupsValue_eq]
          exact .groups (eightGroups_of_v6Rest? hread)
        · exact nomatch h
      · exact nomatch h
  · intro h
    cases h with
    | octets a b c d =>
      have hread := v4Rest?_dotted a b c d atColon_nil.not_isDigit
      rw [List.append_nil] at hread
      simp only [hread, v4Value_eq]
      rfl
    | groups h =>
      simp only [h.v4Rest?_eq_none, h.v6Rest?_eq, groupsValue_eq]
      rfl

end ScanQuery.Address
