import Automation.Description.Extraction
import Automation.Proofs.Text.Case
import Automation.Proofs.Text.Strip

/-!
This module contains laws of the normal form of descriptions. It is its own normal form, it consists
of its words, it has word characters where the description has, and it says all that the description
says.
-/

namespace Automation.Description

open Text

theorem lower_go_append {w : List Char} (h : IsBlankFree w) (before cs : List Char) :
    ∃ w', IsBlankFree w' ∧ lower.go before (w ++ cs) = w' ++ lower.go (w.reverse ++ before) cs := by
  obtain ⟨hne, hw⟩ := h
  induction w generalizing before with
  | nil => exact absurd rfl hne
  | cons c w ih =>
    rw [List.forall_mem_cons] at hw
    have hc : IsBlankFree (lowerWithin before c (w ++ cs)) :=
      ⟨lowerWithin_ne_nil _ _ _, fun d hd => isBlank_of_mem_lowerWithin hw.1 hd⟩
    by_cases hnil : w = []
    . subst hnil
      exact ⟨_, hc, by simp [lower.go]⟩
    . obtain ⟨w', hw', hgo⟩ := ih (c :: before) hnil hw.2
      refine ⟨lowerWithin before c (w ++ cs) ++ w', ⟨by simp [hw'.ne_nil], ?_⟩, ?_⟩
      . intro d hd
        rcases List.mem_append.1 hd with hd | hd
        . exact hc.isBlank d hd
        . exact hw'.isBlank d hd
      . simp [lower.go, hgo]

theorem isLower_space : IsLower ' ' := by
  apply isLower_of_lowerChar
  . decide
  . decide
  . decide +kernel

theorem lower_go_joinWords {ws : List (List Char)} (h : ∀ w ∈ ws, IsBlankFree w)
    (before : List Char) :
    ∃ ws', ws'.length = ws.length ∧ (∀ w ∈ ws', IsBlankFree w) ∧
      lower.go before (joinWords ws) = joinWords ws' := by
  induction ws generalizing before with
  | nil => exact ⟨[], rfl, by simp, rfl⟩
  | cons w ws ih =>
    rw [List.forall_mem_cons] at h
    cases ws with
    | nil =>
      obtain ⟨w', hw', hgo⟩ := lower_go_append h.1 before []
      refine ⟨[w'], rfl, by simpa using hw', ?_⟩
      rw [List.append_nil, lower.go, List.append_nil] at hgo
      rw [joinWords_singleton, joinWords_singleton, hgo]
    | cons w₂ ws =>
      obtain ⟨w', hw', hgo⟩ := lower_go_append h.1 before (' ' :: joinWords (w₂ :: ws))
      obtain ⟨ws', hlength, hws', hrest⟩ := ih h.2 (' ' :: (w.reverse ++ before))
      obtain ⟨w₂', ws', rfl⟩ := List.exists_cons_of_length_eq_add_one hlength
      refine ⟨w' :: w₂' :: ws', by simpa using hlength, List.forall_mem_cons.2 ⟨hw', hws'⟩, ?_⟩
      rw [joinWords_cons_cons, hgo, lower.go, isLower_space, hrest, joinWords_cons_cons]
      rfl

theorem normal_eq_joinWords (cs : List Char) :
    ∃ ws, (∀ w ∈ ws, IsBlankFree w) ∧ normal cs = joinWords ws := by
  have hwords : ∀ w ∈ words cs, IsBlankFree w := fun _ => isBlankFree_of_mem_words
  obtain ⟨ws, -, hws, hnormal⟩ := lower_go_joinWords hwords []
  exact ⟨ws, hws, hnormal⟩

theorem isSpaced_normal (cs : List Char) : IsSpaced (normal cs) := by
  obtain ⟨ws, hws, hnormal⟩ := normal_eq_joinWords cs
  rw [hnormal]
  exact isSpaced_joinWords hws

theorem getLast?_normal {cs : List Char} {c : Char} (h : c ∈ (normal cs).getLast?) :
    Text.isBlank c = false := by
  obtain ⟨ws, hws, hnormal⟩ := normal_eq_joinWords cs
  rw [hnormal] at h
  obtain ⟨w, hw, hc⟩ := getLast?_joinWords (fun w hw => (hws w hw).ne_nil) h
  exact (hws w hw).isBlank c hc

theorem joinWords_words_normal (cs : List Char) : joinWords (words (normal cs)) = normal cs := by
  obtain ⟨ws, hws, hnormal⟩ := normal_eq_joinWords cs
  rw [hnormal, words_joinWords hws]

theorem normal_normal (cs : List Char) : normal (normal cs) = normal cs := by
  unfold normal
  exact (congrArg lower (joinWords_words_normal cs)).trans (lower_lower _)

theorem normal_normalize (text : String) : normal (normalize text).toList = normal text.toList := by
  rw [normalize, String.toList_ofList, normal_normal]

theorem lower_of_within {cs part : List Char} (h : part <:+: normal cs) : lower part = part :=
  lower_eq_self fun _ hc => isLower_of_mem_lower (h.subset hc)

/-- What lies within a normal form and has no blanks at its ends is its own normal form. -/
theorem normal_of_within {cs part : List Char} (h : part <:+: normal cs)
    (hhead : ∀ c ∈ part.head?, Text.isBlank c = false)
    (hlast : ∀ c ∈ part.getLast?, Text.isBlank c = false) : normal part = part := by
  rw [normal, ((isSpaced_normal cs).within h).joinWords_words hhead hlast, lower_of_within h]

theorem any_normal (cs : List Char) : (normal cs).any isWord = cs.any isWord := by
  unfold normal
  rw [any_lower, any_joinWords (isWord_of_isBlank isBlank_space), flatten_words, List.any_filter]
  congr 1
  funext c
  cases hblank : Text.isBlank c with
  | true => simp [isWord_of_isBlank hblank]
  | false => simp

theorem isBlank_normalize (text : String) : isBlank (normalize text) = isBlank text := by
  rw [isBlank, normalize, String.toList_ofList, any_normal, isBlank]

theorem isBlank_of_mem_normal {description : String} {c : Char}
    (h : c ∈ normal description.toList) (hword : isWord c = true) : isBlank description = false := by
  rw [isBlank, ← any_normal, Bool.not_eq_false', List.any_eq_true]
  exact ⟨c, h, hword⟩

theorem extract_normalize (text : String) : extract (normalize text) = extract text := by
  have hnormal : normalize (normalize text) = normalize text := by
    rw [normalize, normal_normalize, normalize]
  unfold extract
  rw [isBlank_normalize, hnormal]

end Automation.Description
