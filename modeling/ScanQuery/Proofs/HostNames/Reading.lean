import Mathlib
import ScanQuery.HostName
import ScanQuery.Proofs.Text.Runs
import ScanQuery.Proofs.Text.Trim

/-!
How names are looked for. A reader is tried at every place of the output from the left, so what it
finds lies behind a front in which it fits nowhere, and such a front may be put before any text. A
word ends where white space begins, and the text that becomes a name is trimmed and never empty.
Each plugin that discloses names has a reader of its own.
-/

namespace ScanQuery

namespace HostName

/-! ### Words -/

section Word

variable {c : Char} {cs : List Char}

theorem word_cons_of_shown (h : Text.isBlank c = false) : word (c :: cs) = c :: word cs :=
  List.takeWhile_cons_of_pos (by rw [h]; rfl)

theorem afterWord_cons_of_shown (h : Text.isBlank c = false) : afterWord (c :: cs) = afterWord cs :=
  List.dropWhile_cons_of_pos (by rw [h]; rfl)

theorem word_cons_of_blank (h : Text.isBlank c = true) : word (c :: cs) = [] :=
  List.takeWhile_cons_of_neg (by rw [h]; decide)

theorem afterWord_cons_of_blank (h : Text.isBlank c = true) : afterWord (c :: cs) = c :: cs :=
  List.dropWhile_cons_of_neg (by rw [h]; decide)

theorem isBlank_of_mem_word (h : c ∈ word cs) : Text.isBlank c = false := by
  simpa using List.mem_takeWhile_imp h

theorem word_append_afterWord (cs : List Char) : word cs ++ afterWord cs = cs :=
  List.takeWhile_append_dropWhile

theorem isBlank_of_mem_head?_afterWord (h : c ∈ (afterWord cs).head?) : Text.isBlank c = true := by
  simpa using Text.not_of_mem_head?_dropWhile h

/-- A word in front of white space, or of nothing, is read whole. -/
theorem word_append {w rest : List Char} (hw : ∀ c ∈ w, Text.isBlank c = false)
    (hrest : ∀ c ∈ rest.head?, Text.isBlank c = true) : word (w ++ rest) = w :=
  Text.takeWhile_append_of_head (fun c hc => by rw [hw c hc]; rfl)
    fun c hc => by rw [hrest c hc]; rfl

theorem afterWord_append {w rest : List Char} (hw : ∀ c ∈ w, Text.isBlank c = false)
    (hrest : ∀ c ∈ rest.head?, Text.isBlank c = true) : afterWord (w ++ rest) = rest :=
  Text.dropWhile_append_of_head (fun c hc => by rw [hw c hc]; rfl)
    fun c hc => by rw [hrest c hc]; rfl

/-- A word that ends within a text ends there, whatever follows the text. -/
theorem word_append_of_mem (hc : c ∈ cs) (hblank : Text.isBlank c = true) (rest : List Char) :
    word (cs ++ rest) = word cs :=
  Text.takeWhile_append_of_mem hc (by rw [hblank]; rfl) rest

theorem afterWord_append_of_mem (hc : c ∈ cs) (hblank : Text.isBlank c = true)
    (rest : List Char) : afterWord (cs ++ rest) = afterWord cs ++ rest :=
  Text.dropWhile_append_of_mem hc (by rw [hblank]; rfl) rest

theorem afterWord_ne_nil (hc : c ∈ cs) (hblank : Text.isBlank c = true) : afterWord cs ≠ [] := by
  intro hnil
  have hshown := List.dropWhile_eq_nil_iff.1 hnil c hc
  rw [hblank] at hshown
  exact Bool.false_ne_true hshown

theorem mem_of_mem_afterWord (h : c ∈ afterWord cs) : c ∈ cs :=
  (List.dropWhile_suffix _).subset h

end Word

/-! ### The search -/

section Search

variable {α : Type} {reader : List Char → Option α}

theorem firstFit_of_fit {cs : List Char} {a : α} (h : reader cs = some a) :
    firstFit reader cs = some a := by
  cases cs with
  | nil => exact h
  | cons c cs => rw [firstFit, h]; rfl

theorem firstFit_cons_of_none {c : Char} {cs : List Char} (h : reader (c :: cs) = none) :
    firstFit reader (c :: cs) = firstFit reader cs := by
  rw [firstFit, h]
  rfl

/-- A front in which the reader fits nowhere may be passed over. -/
theorem firstFit_append_of_none {front : List Char} (rest : List Char)
    (h : ∀ suffix, suffix ≠ [] → suffix <:+ front → reader (suffix ++ rest) = none) :
    firstFit reader (front ++ rest) = firstFit reader rest := by
  induction front with
  | nil => rfl
  | cons c front ih =>
    have hnone := h (c :: front) (List.cons_ne_nil c front) List.suffix_rfl
    rw [List.cons_append] at hnone
    rw [List.cons_append, firstFit_cons_of_none hnone]
    exact ih fun suffix hne hsuffix => h suffix hne (hsuffix.trans (List.suffix_cons c front))

/-- What is found lies behind a front, and the reader does not fit one character earlier. -/
theorem exists_of_firstFit {cs : List Char} {a : α} (h : firstFit reader cs = some a) :
    ∃ front rest, cs = front ++ rest ∧ reader rest = some a ∧
      ∀ init c, front = init ++ [c] → reader (c :: rest) = none := by
  induction cs with
  | nil => exact ⟨[], [], rfl, h, by simp⟩
  | cons c cs ih =>
    cases hfit : reader (c :: cs) with
    | some b =>
      obtain rfl : b = a := by
        rw [firstFit_of_fit hfit] at h
        exact Option.some.inj h
      exact ⟨[], c :: cs, rfl, hfit, by simp⟩
    | none =>
      rw [firstFit_cons_of_none hfit] at h
      obtain ⟨front, rest, rfl, hrest, hearlier⟩ := ih h
      refine ⟨c :: front, rest, rfl, hrest, fun init d hfront => ?_⟩
      cases init with
      | nil =>
        obtain ⟨rfl, rfl⟩ : c = d ∧ front = [] := by simpa using hfront
        exact hfit
      | cons e init => exact hearlier init d (List.cons.inj hfront).2

end Search

/-! ### The name -/

theorem name?_eq_some_iff {cs : List Char} {name : String} :
    name? cs = some name ↔ name.toList = Text.trimChars cs ∧ name ≠ "" := by
  have hite : name? cs = some name ↔ ¬ (String.ofList (Text.trimChars cs)).isEmpty = true ∧
      some (String.ofList (Text.trimChars cs)) = some name := by
    rw [name?, Text.nonBlank?, Text.trim, String.toList_ofList, Option.ite_none_left_eq_some]
  rw [hite, Option.some_inj]
  constructor
  · rintro ⟨hne, rfl⟩
    exact ⟨String.toList_ofList, by simpa using hne⟩
  · rintro ⟨hname, hne⟩
    rw [← hname, String.ofList_toList]
    exact ⟨by simpa using hne, rfl⟩

theorem name?_nil : name? [] = none := by
  decide

/-- A text without white space is a name as it stands. -/
theorem name?_of_shown {cs : List Char} (h : ∀ c ∈ cs, Text.isBlank c = false) (hne : cs ≠ []) :
    name? cs = some (String.ofList cs) := by
  rw [name?_eq_some_iff, String.toList_ofList,
    Text.trimChars_of_trimmed (Text.trimmed_of_forall h)]
  exact ⟨rfl, by simpa using hne⟩

/-! ### The plugins -/

/-- Each plugin has its reader, and the outputs of other plugins give no name. -/
theorem ofOutput?_eq_some_iff {pluginId output name : String} :
    ofOutput? pluginId output = some name ↔
      (pluginId = "12053" ∧ ofResolution? output = some name) ∨
      ((pluginId = "10150" ∨ pluginId = "42410") ∧ ofTable? output = some name) ∨
      (pluginId = "53513" ∧ ofQuotes? output = some name) ∨
      (pluginId = "55472" ∧ ofLabel? output = some name) := by
  unfold ofOutput? nameResolution
  split
  · next hid => subst hid; simp
  split
  · next hid => rcases hid with rfl | rfl <;> simp
  split
  · next hid => subst hid; simp
  split
  · next hid => subst hid; simp
  · next hresolution htable hquotes hlabel => simp [hresolution, htable, hquotes, hlabel]

end HostName

end ScanQuery
