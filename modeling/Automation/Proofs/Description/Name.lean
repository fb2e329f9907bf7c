import Automation.Description.Name
import Automation.Proofs.Text.Words

/-!
This module contains laws of the names that are derived from descriptions. A name is told word by
word, by what is left of each of the first words of a description, and is derived from itself again.
-/

namespace Automation.Description

open Text

def nameWords (limit : Nat) (cs : List Char) : List (List Char) :=
  (((words cs).take limit).map (·.filter Char.isAlphanum)).filter (· ≠ [])

section Kept

theorem isBlank_of_isAlphanum {c : Char} (h : c.isAlphanum = true) : Text.isBlank c = false := by
  have hcode : 48 ≤ c.toNat ∧ c.toNat ≤ 122 := by
    change (decide (65 ≤ c.val ∧ c.val ≤ 90) || (decide (97 ≤ c.val) && decide (c.val ≤ 122)) ||
      (decide (48 ≤ c.val) && decide (c.val ≤ 57))) = true at h
    simp only [UInt32.le_iff_toNat_le, Bool.or_eq_true, Bool.and_eq_true, decide_eq_true_eq] at h
    change (65 ≤ c.toNat ∧ c.toNat ≤ 90 ∨ 97 ≤ c.toNat ∧ c.toNat ≤ 122) ∨
      48 ≤ c.toNat ∧ c.toNat ≤ 57 at h
    omega
  have hapart : ∀ r ∈ blankRanges, r.2 < 48 ∨ 122 < r.1 := by decide
  rw [← Bool.not_eq_true]
  intro hblank
  obtain ⟨r, hr, hlow, hhigh⟩ := inRanges_iff.1 hblank
  have hr := hapart r hr
  omega

theorem words_eq_filter {w : List Char} (h : ∀ c ∈ w, Text.isBlank c = false) :
    words w = [w].filter (· ≠ []) := by
  by_cases hnil : w = []
  . subst hnil
    rfl
  . simp [words_of_isBlankFree ⟨hnil, h⟩, hnil]

theorem words_filter_joinWords {ws : List (List Char)} (h : ∀ w ∈ ws, IsBlankFree w) :
    words ((joinWords ws).filter fun c => isNameChar c || Text.isBlank c) =
      (ws.map (·.filter Char.isAlphanum)).filter (· ≠ []) := by
  have hword : ∀ {w}, IsBlankFree w →
      words (w.filter fun c => isNameChar c || Text.isBlank c) =
        [w.filter Char.isAlphanum].filter (· ≠ []) := by
    intro w hw
    have hkept : w.filter (fun c => isNameChar c || Text.isBlank c) = w.filter Char.isAlphanum := by
      apply List.filter_congr
      intro c hc
      rw [hw.isBlank c hc, Bool.or_false, isNameChar]
    rw [hkept]
    exact words_eq_filter fun c hc => hw.isBlank c (List.mem_filter.1 hc).1
  -- The space between two words is kept, so they stay apart whatever is left of them.
  induction ws with
  | nil => rfl
  | cons w ws ih =>
    rw [List.forall_mem_cons] at h
    cases ws with
    | nil =>
      rw [joinWords_singleton, hword h.1]
      rfl
    | cons w' ws =>
      rw [joinWords_cons_cons, List.filter_append, List.filter_cons_of_pos (by decide),
        words_append_blank isBlank_space, hword h.1, ih h.2, ← List.filter_append]
      rfl

end Kept

section Derived

variable {limit : Nat} {cs w : List Char}

theorem of_mem_nameWords (h : w ∈ nameWords limit cs) :
    w ≠ [] ∧ ∀ c ∈ w, c.isAlphanum = true := by
  obtain ⟨hw, hne⟩ := List.mem_filter.1 h
  obtain ⟨v, -, rfl⟩ := List.mem_map.1 hw
  exact ⟨of_decide_eq_true hne, fun c hc => (List.mem_filter.1 hc).2⟩

theorem isBlankFree_of_mem_nameWords (h : w ∈ nameWords limit cs) : IsBlankFree w := by
  obtain ⟨hne, hall⟩ := of_mem_nameWords h
  exact ⟨hne, fun c hc => isBlank_of_isAlphanum (hall c hc)⟩

theorem length_nameWords_le (limit : Nat) (cs : List Char) :
    (nameWords limit cs).length ≤ limit := by
  calc (nameWords limit cs).length
    _ ≤ (((words cs).take limit).map (·.filter Char.isAlphanum)).length := List.length_filter_le _ _
    _ = ((words cs).take limit).length := List.length_map _
    _ ≤ limit := List.length_take_le limit _

theorem words_joinWords_nameWords (limit : Nat) (cs : List Char) :
    words (joinWords (nameWords limit cs)) = nameWords limit cs :=
  words_joinWords fun _ => isBlankFree_of_mem_nameWords

theorem nameWords_joinWords (limit : Nat) (cs : List Char) :
    nameWords limit (joinWords (nameWords limit cs)) = nameWords limit cs := by
  have hkept : (nameWords limit cs).map (·.filter Char.isAlphanum) = nameWords limit cs := by
    conv => rhs; rw [← List.map_id (nameWords limit cs)]
    apply List.map_congr_left
    intro w hw
    exact List.filter_eq_self.2 (of_mem_nameWords hw).2
  rw [nameWords, words_joinWords_nameWords, List.take_of_length_le (length_nameWords_le limit cs),
    hkept, List.filter_eq_self]
  intro w hw
  exact decide_eq_true (of_mem_nameWords hw).1

theorem nameOf_eq (description : String) (limit : Nat) :
    nameOf description (some limit) =
      String.ofList (joinWords (nameWords limit description.toList)) := by
  have hfree : ∀ w ∈ takeLimit (some (limit : Int)) (words description.toList), IsBlankFree w :=
    fun w hw => isBlankFree_of_mem_words (List.mem_of_mem_take hw)
  rw [nameOf, words_filter_joinWords hfree]
  rfl

theorem isEmpty_nameOf (description : String) (limit : Nat) :
    (nameOf description (some limit)).isEmpty = true ↔ nameWords limit description.toList = [] := by
  rw [nameOf_eq, String.isEmpty_iff, ← String.toList_inj, String.toList_ofList, String.toList_empty]
  constructor
  . intro hjoin
    rw [← words_joinWords_nameWords, hjoin]
    rfl
  . intro hnil
    rw [hnil, joinWords_nil]

theorem deriveName_eq (description : String) (limit : Nat) (default : Text) :
    deriveName description (some limit) default =
      if nameWords limit description.toList = [] then default
      else String.ofList (joinWords (nameWords limit description.toList)) := by
  unfold deriveName
  simp only [isEmpty_nameOf]
  rw [nameOf_eq]

/-- A name has what is left of the first words, if anything is left of them, and names itself. -/
theorem deriveName_words (description : String) (limit : Nat) (default : Text) :
    let ws := nameWords limit description.toList
    let name := String.ofList (joinWords ws)
    deriveName description (some limit) default = (if ws = [] then default else name) ∧
      words name.toList = ws ∧ ws.length ≤ limit ∧
      (∀ w ∈ ws, w ≠ [] ∧ ∀ c ∈ w, c.isAlphanum = true) ∧
      (ws ≠ [] → deriveName name (some limit) default = name) := by
  dsimp only
  refine ⟨deriveName_eq description limit default, ?_, ?_, fun w hw => of_mem_nameWords hw, ?_⟩
  . rw [String.toList_ofList, words_joinWords_nameWords]
  . exact length_nameWords_le limit _
  . intro hne
    rw [deriveName_eq, String.toList_ofList, nameWords_joinWords, if_neg hne]

/-- A word of marks only, which counts as one of the first words, and a letter beyond ASCII. -/
def syncText : String := "Sync  the #1 café\u00a0!! (EU-wide) lists"

theorem deriveName_words_of_syncText :
    nameWords 6 syncText.toList ≠ [] ∧
      deriveName syncText (some 6) "none" = "Sync the 1 caf EUwide" ∧
      deriveName "Sync the 1 caf EUwide" (some 6) "none" = "Sync the 1 caf EUwide" := by
  have hwords :
      String.ofList (joinWords (nameWords 6 syncText.toList)) = "Sync the 1 caf EUwide" := by
    decide +kernel
  have hne : nameWords 6 syncText.toList ≠ [] := by decide +kernel
  obtain ⟨hname, -, -, -, hself⟩ := deriveName_words syncText 6 "none"
  rw [hwords] at hself
  rw [if_neg hne, hwords] at hname
  exact ⟨hne, hname, hself hne⟩

end Derived

end Automation.Description
