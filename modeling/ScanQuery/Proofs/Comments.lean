import ScanQuery.Proofs.Rows
import ScanQuery.Proofs.Text.Split

/-!
Comments read back. The comment of a row joins the plugins of a port by commas, stands them behind
the port and a colon, and joins the ports by bars. Cutting at bars, at the first colon and at commas
takes it apart again where ports and ids are without these marks. A port without findings would look
like one whose only plugin has no id, so each port must have a finding; a comment without any port
is empty, and no other comment is, for each of them has a colon.

Ports are listed in an order that depends on nothing but which ports they are, so the comment of a
host and what was found on it determine each other.
-/

namespace ScanQuery

/-- Without the marks that comments are made with. -/
structure Unmarked (s : String) : Prop where
  colon : ':' ∉ s.toList
  comma : ',' ∉ s.toList
  bar : '|' ∉ s.toList

instance (s : String) : Decidable (Unmarked s) :=
  decidable_of_iff (':' ∉ s.toList ∧ ',' ∉ s.toList ∧ '|' ∉ s.toList)
    ⟨fun h => ⟨h.1, h.2.1, h.2.2⟩, fun h => ⟨h.colon, h.comma, h.bar⟩⟩

namespace Listing

/-- The ports that a comment lists, each with its plugins. -/
def portsOfComment (comment : String) : List (String × List String) :=
  (Text.split "|" comment).filterMap fun part =>
    (Text.splitOnce? ":" part).map fun (port, ids) => (port, Text.split "," ids)

/-- A port and its plugins that can be told from the rest of a comment. -/
structure Legible (x : String × List String) : Prop where
  port : Unmarked x.1
  found : x.2 ≠ []
  ids : ∀ id ∈ x.2, Unmarked id

/-- What a comment says of a port. -/
def part (x : String × List String) : String :=
  x.1 ++ ":" ++ ",".intercalate x.2

theorem toList_part (x : String × List String) :
    (part x).toList = x.1.toList ++ ([':'] ++ [','].intercalate (x.2.map String.toList)) := by
  simp [part, String.toList_append, String.toList_intercalate]

/-- The ids of a port joined by commas are cut apart at the commas. -/
theorem split_ids {x : String × List String} (hx : Legible x) :
    Text.split "," (",".intercalate x.2) = x.2 := by
  refine Text.split_intercalate (by simp) hx.found fun id hid => ?_
  exact Text.clear_of_not_mem (hx.ids id hid).comma

/-- What a comment says of a port is read back at the first colon. -/
theorem splitOnce?_part {x : String × List String} (hx : Legible x) :
    Text.splitOnce? ":" (part x) = some (x.1, ",".intercalate x.2) := by
  have hclear : Text.Clear [':'] x.1.toList := Text.clear_of_not_mem hx.port.colon
  have hcut := Text.cutAt?_of_clear (List.cons_ne_nil ':' []) hclear
    ([','].intercalate (x.2.map String.toList))
  have hcolon : ":".toList = [':'] := rfl
  rw [Text.splitOnce?, toList_part, hcolon, hcut, Option.map_some]
  simp [← String.toList_inj, String.toList_intercalate]

/-- No bar is in what a comment says of a port. -/
theorem bar_not_mem_part {x : String × List String} (hx : Legible x) : '|' ∉ (part x).toList := by
  intro hbar
  rw [toList_part, List.mem_append, List.mem_append] at hbar
  rcases hbar with hbar | hbar | hbar
  · exact hx.port.bar hbar
  · simp at hbar
  · rcases Text.mem_of_mem_intercalate hbar with hbar | ⟨t, ht, hbar⟩
    · simp at hbar
    · obtain ⟨id, hid, rfl⟩ := List.mem_map.1 ht
      exact (hx.ids id hid).bar hbar

theorem portsOfComment_empty : portsOfComment "" = [] := by
  have hno : ¬ ['|'] <:+: [] := by simp
  have hsplit : Text.split "|" "" = [""] :=
    congrArg (List.map String.ofList) (Text.splitChars_of_no_match (List.cons_ne_nil '|' []) hno)
  rw [portsOfComment, hsplit]
  rfl

/-- A listing is read back from the comment of its row. -/
theorem portsOfComment_row {l : Listing} (hl : ∀ x ∈ l.ports, Legible x) :
    portsOfComment l.row.comment = l.ports := by
  have hcomment : l.row.comment = "|".intercalate (l.ports.map part) := rfl
  rcases eq_or_ne l.ports [] with hnil | hne
  · rw [hcomment, hnil]
    exact portsOfComment_empty
  · have hclear : ∀ t ∈ l.ports.map part, Text.Clear "|".toList t.toList := by
      intro t ht
      obtain ⟨x, hx, rfl⟩ := List.mem_map.1 ht
      exact Text.clear_of_not_mem (bar_not_mem_part (hl x hx))
    have hread : ∀ x ∈ l.ports, ((Text.splitOnce? ":" (part x)).map fun (port, ids) =>
        (port, Text.split "," ids)) = some x := by
      intro x hx
      simp only [splitOnce?_part (hl x hx), Option.map_some, split_ids (hl x hx)]
    rw [hcomment, portsOfComment, Text.split_intercalate (by simp) (by simpa using hne) hclear,
      List.filterMap_map]
    exact (List.filterMap_congr hread).trans (List.filterMap_some)

end Listing

/-! ### Hosts -/

namespace Host

/-- The ids of the plugins that reported something on a port, one for each finding. -/
def idsOn (h : Host) (port : String) : List String :=
  ((h.findings.get? port).getD []).map (·.pluginId)

/-- Every port of the host has a finding, and the marks of comments are in no port and no id. -/
def Legible (h : Host) : Prop :=
  ∀ e ∈ h.findings.entries, Unmarked e.1 ∧ e.2 ≠ [] ∧ ∀ f ∈ e.2, Unmarked f.pluginId

instance (h : Host) : Decidable h.Legible :=
  inferInstanceAs (Decidable (∀ e ∈ h.findings.entries, Unmarked e.1 ∧ e.2 ≠ [] ∧
    ∀ f ∈ e.2, Unmarked f.pluginId))

theorem Legible.listing {h : Host} (hh : h.Legible) :
    ∀ x ∈ (Listing.ofHost h).ports, Listing.Legible x := by
  rintro ⟨port, ids⟩ hx
  obtain ⟨findings, hfindings, rfl⟩ := ((Listing.exact_ofHost h).mem_iff port ids).1 hx
  obtain ⟨hport, hfound, hids⟩ := hh _ (KeyMap.mem_entries_iff.2 hfindings)
  refine ⟨hport, by simpa using hfound, fun id hid => ?_⟩
  obtain ⟨f, hf, rfl⟩ := List.mem_map.1 hid
  exact hids f hf

/-- What is listed of a host is its ports in their order, each with the ids found on it. -/
theorem ports_ofHost (h : Host) :
    (Listing.ofHost h).ports = (Port.sortKeys h.findings.keys).map fun port => (port, h.idsOn port) :=
  rfl

/-- Hosts are listed alike when they have the same ports and the same ids on each of them. -/
theorem ports_ofHost_eq_iff {h h' : Host} :
    (Listing.ofHost h).ports = (Listing.ofHost h').ports ↔
      h.findings.keys = h'.findings.keys ∧
        ∀ port ∈ h.findings.keys, h.idsOn port = h'.idsOn port := by
  constructor
  · intro heq
    have hports := congrArg (List.map (·.1)) heq
    simp only [ports_ofHost, List.map_map, Function.comp_def, List.map_id'] at hports
    have hperm : h.findings.keys.Perm h'.findings.keys := Port.sortKeys_eq_iff_perm.1 hports
    have hkeys : h.findings.keys = h'.findings.keys := by
      refine hperm.eq_of_pairwise (fun a b _ _ hab hba => ?_) h.findings.keys_ascending
        h'.findings.keys_ascending
      exact absurd (String.lt_trans hab hba) (String.lt_irrefl a)
    refine ⟨hkeys, fun port hport => ?_⟩
    rw [ports_ofHost, ports_ofHost, ← hkeys, List.map_inj_left] at heq
    exact (Prod.mk.inj (heq port ((Port.sortKeys_perm _).mem_iff.2 hport))).2
  · rintro ⟨hkeys, hids⟩
    rw [ports_ofHost, ports_ofHost, ← hkeys]
    refine List.map_congr_left fun port hport => ?_
    rw [hids port ((Port.sortKeys_perm _).mem_iff.1 hport)]

/-- The comments of two hosts are equal exactly when the hosts have the same ports and on each port
the same plugins in the same order. -/
theorem comment_eq_iff {h h' : Host} (hh : h.Legible) (hh' : h'.Legible) :
    (Row.ofHost h).comment = (Row.ofHost h').comment ↔
      h.findings.keys = h'.findings.keys ∧
        ∀ port ∈ h.findings.keys, h.idsOn port = h'.idsOn port := by
  rw [← ports_ofHost_eq_iff, ← Listing.row_ofHost, ← Listing.row_ofHost]
  constructor
  · intro heq
    rw [← Listing.portsOfComment_row hh.listing, heq, Listing.portsOfComment_row hh'.listing]
  · intro heq
    rw [Listing.row, Listing.row, heq]

/-- A host that was found to have the plugins in the order in which they are listed. -/
def mailHost (ports : List (String × String)) : Host :=
  ports.foldl (fun h x => h.addFinding x.1 ⟨x.2, "", "2", "", none⟩) (.new "10.0.0.25" none)

/-- The order of the ports is of no account, that of the plugins on a port is. -/
theorem comment_eq_iff_mailHost :
    (Row.ofHost (mailHost [("443/tcp", "3"), ("25/tcp", "1"), ("25/tcp", "2")])).comment =
        "25/tcp:1,2|443/tcp:3" ∧
      (Row.ofHost (mailHost [("443/tcp", "3"), ("25/tcp", "1"), ("25/tcp", "2")])).comment =
        (Row.ofHost (mailHost [("25/tcp", "1"), ("443/tcp", "3"), ("25/tcp", "2")])).comment ∧
      (Row.ofHost (mailHost [("443/tcp", "3"), ("25/tcp", "1"), ("25/tcp", "2")])).comment ≠
        (Row.ofHost (mailHost [("443/tcp", "3"), ("25/tcp", "2"), ("25/tcp", "1")])).comment := by
  have hlegible : ∀ ports ∈ [[("443/tcp", "3"), ("25/tcp", "1"), ("25/tcp", "2")],
      [("25/tcp", "1"), ("443/tcp", "3"), ("25/tcp", "2")],
      [("443/tcp", "3"), ("25/tcp", "2"), ("25/tcp", "1")]], (mailHost ports).Legible := by
    decide +kernel
  refine ⟨by cbv, ?_, ?_⟩
  · exact (comment_eq_iff (hlegible _ (by simp)) (hlegible _ (by simp))).2 (by decide +kernel)
  · rw [ne_eq, comment_eq_iff (hlegible _ (by simp)) (hlegible _ (by simp))]
    decide +kernel

end Host

end ScanQuery
