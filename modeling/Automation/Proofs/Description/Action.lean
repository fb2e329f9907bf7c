import Automation.Proofs.Description.Cut

/-!
This module contains laws of single actions. The text of an action lies within the normal form of
the description that it is read in and has no connective in it, so the text, read by itself, says
this one action and nothing else.
-/

namespace Automation.Description

open Text

structure IsActionText (part : List Char) : Prop where
  normal : normal part = part
  no_connective : ∀ c, IsConnective c → ¬ c <:+: part
  head : ∀ c ∈ part.head?, c ∉ " .;:!?".toList
  last : ∀ c ∈ part.getLast?, c ∉ " .;:!?".toList
  action : IsAction part

section Single

variable {part : List Char}

theorem segments_of_clean (hspaced : IsSpaced part)
    (hclean : ∀ c, IsConnective c → ¬ c <:+: part) : segments part = [part] := by
  obtain ⟨⟨first, links⟩, hcut, hsegments⟩ := exists_isCut hspaced
  have htext : first ++ links.text = part := hcut.text
  cases hcut.leftmost with
  | last =>
    rw [Links.text_nil, List.append_nil] at htext
    rw [hsegments, ← htext]
    rfl
  | @link _ c next links hc =>
    rw [Links.text_cons] at htext
    exact absurd ⟨first, next ++ links.text, by rw [← htext, List.append_assoc]⟩ (hclean c hc)

theorem isOuterMark_eq_false {c : Char} (h : c ∉ " .;:!?".toList) : isOuterMark c = false := by
  simpa [isOuterMark] using h

theorem actions_of_isActionText (h : IsActionText part) :
    actions (String.ofList part) false = [Clause.of .action part] := by
  have hspaced := isSpaced_normal part
  rw [h.normal] at hspaced
  have hstrip : stripWhere isOuterMark part = part :=
    stripWhere_eq_self (fun c hc => isOuterMark_eq_false (h.head c hc))
      fun c hc => isOuterMark_eq_false (h.last c hc)
  have hspans : actionSpans [part] = [part] := by
    rw [actionSpans_eq, List.map_singleton, hstrip, List.filter_eq_self, List.forall_mem_singleton]
    exact decide_eq_true h.action
  unfold actions
  dsimp only
  rw [String.toList_ofList, h.normal, segments_of_clean hspaced h.no_connective,
    if_neg Bool.false_ne_true, hspans, List.map_singleton]

end Single

section Read

theorem Links.infix_text {l : List Char × List Char} {links : Links} (h : l ∈ links) :
    l.2 <:+: links.text := by
  obtain ⟨before, after, rfl⟩ := List.append_of_mem h
  exact ⟨Links.text before ++ l.1, Links.text after, by simp [Links.text]⟩

theorem IsCut.infix_of_mem {cs part : List Char} {cut : Cut} (h : IsCut cs cut)
    (hpart : part ∈ cut.parts) : part <:+: cs := by
  rw [← h.text, Cut.text]
  rcases List.mem_cons.1 hpart with rfl | hpart
  . exact (List.prefix_append _ _).isInfix
  . obtain ⟨l, hl, rfl⟩ := List.mem_map.1 hpart
    exact (Links.infix_text hl).trans (List.suffix_append _ _).isInfix

theorem isBlank_of_not_mem_marks {cs : List Char} (hspaced : IsSpaced cs) {c : Char} (hc : c ∈ cs)
    (h : c ∉ " .;:!?".toList) : Text.isBlank c = false := by
  rw [← Bool.not_eq_true]
  intro hblank
  rw [hspaced.eq_space c hc hblank] at h
  exact h (by decide)

theorem exists_of_mem_actions {text : String} {hasTrigger : Bool} {a : Clause}
    (h : a ∈ actions text hasTrigger) :
    ∃ part, a = Clause.of .action part ∧ part <:+: normal text.toList ∧ IsActionText part := by
  have hspaced := isSpaced_normal text.toList
  obtain ⟨cut, hcut, hsegments⟩ := exists_isCut hspaced
  obtain ⟨part, hpart, rfl⟩ := List.mem_map.1 h
  rw [actionSpans_eq, List.mem_filter, List.mem_map] at hpart
  obtain ⟨⟨segment, hsegment, rfl⟩, haction⟩ := hpart
  have hmem : segment ∈ cut.parts := by
    rw [← hsegments]
    split at hsegment
    . exact List.mem_of_mem_drop hsegment
    . exact hsegment
  have hinner := stripWhere_within isOuterMark segment
  have hwithin := hinner.trans (hcut.infix_of_mem hmem)
  have hmark : ∀ c, isOuterMark c = true ↔ c ∈ " .;:!?".toList := fun c => by simp [isOuterMark]
  have htrimmed := isTrimmed_stripWhere hmark segment
  refine ⟨_, rfl, hwithin, ?_, ?_, htrimmed.head, htrimmed.last, of_decide_eq_true haction⟩
  -- The ends are no blanks, since a space would have been stripped.
  . apply normal_of_within hwithin
    . intro c hc
      exact isBlank_of_not_mem_marks (hspaced.within hwithin) (List.mem_of_mem_head? hc)
        (htrimmed.head c hc)
    . intro c hc
      exact isBlank_of_not_mem_marks (hspaced.within hwithin) (List.mem_of_mem_getLast? hc)
        (htrimmed.last c hc)
  . exact fun c hc hin => hcut.clean segment hmem c hc (hin.trans hinner)

/-- The text of an action, read by itself, says just that action. -/
theorem actionsOf_text {text : String} {hasTrigger : Option Bool} {a : Clause}
    (h : a ∈ actionsOf text hasTrigger) :
    actionsOf a.text (some false) = [a] ∧ normalize a.text = a.text ∧
      IsActionText a.text.toList := by
  obtain ⟨part, rfl, -, hpart⟩ := exists_of_mem_actions h
  have htext : (Clause.of .action part).text.toList = part := String.toList_ofList
  refine ⟨actions_of_isActionText hpart, ?_, ?_⟩
  . rw [normalize, htext, hpart.normal]
    rfl
  . rw [htext]
    exact hpart

/-- Connectives that share a space or a comma, and a word that begins like one. -/
def crowdedText : String :=
  "When mail comes, ask ΟΔΟΣ and and? : then THEN.  Tell SLACK and, then check it"

def crowdedAction : Clause where
  kind := .action
  text := "then. tell slack and"
  service := some .slack

theorem actionsOf_text_crowdedAction :
    crowdedAction ∈ actionsOf crowdedText none ∧
      actionsOf crowdedAction.text (some false) = [crowdedAction] ∧
      normalize crowdedAction.text = crowdedAction.text ∧
      IsActionText crowdedAction.text.toList := by
  have hmem : crowdedAction ∈ actionsOf crowdedText none := by decide +kernel
  exact ⟨hmem, actionsOf_text hmem⟩

end Read

end Automation.Description
