import Automation.Proofs.Description.Normal
import Automation.Proofs.Description.Segments
import Automation.Proofs.Text.Strip

/-!
This module contains descriptions that announce a trigger and then tell what is done. The trigger
and the actions are found in such a description just as they were put into it, whatever connectives
join them.
-/

namespace Automation.Description

open Text

structure IsPhrase (p : List Char) : Prop where
  ne_nil : p ≠ []
  normal : normal p = p
  no_comma : ',' ∉ p
  words : ∀ w ∈ words p, w ≠ "and".toList ∧ ¬ StartsWithWord "then".toList w

structure IsActionPhrase (p : List Char) : Prop extends IsPhrase p where
  head : ∀ c ∈ p.head?, c ∉ " .;:!?".toList
  last : ∀ c ∈ p.getLast?, c ∉ " .;:!?".toList
  no_condition : ∀ word ∈ ["if".toList, "when".toList, "check".toList], ¬ StartsWithWord word p

def linked (links : List (Connective × List Char)) : List Char :=
  links.flatMap fun l => l.1.text ++ l.2

def announced (trigger : List Char) (links : List (Connective × List Char)) : List Char :=
  "when ".toList ++ (trigger ++ linked links)

section Phrase

instance (p : List Char) : Decidable (IsPhrase p) :=
  decidable_of_iff (p ≠ [] ∧ Description.normal p = p ∧ ',' ∉ p ∧
      ∀ w ∈ Text.words p, w ≠ "and".toList ∧ ¬ StartsWithWord "then".toList w)
    ⟨fun ⟨h₁, h₂, h₃, h₄⟩ => ⟨h₁, h₂, h₃, h₄⟩, fun ⟨h₁, h₂, h₃, h₄⟩ => ⟨h₁, h₂, h₃, h₄⟩⟩

theorem all_iff {p : α → Prop} [DecidablePred p] {o : Option α} :
    o.all (p ·) = true ↔ ∀ x ∈ o, p x := by
  cases o <;> simp

instance (p : List Char) : Decidable (IsActionPhrase p) :=
  decidable_of_iff (IsPhrase p ∧ p.head?.all (· ∉ " .;:!?".toList) = true ∧
      p.getLast?.all (· ∉ " .;:!?".toList) = true ∧
      ∀ word ∈ ["if".toList, "when".toList, "check".toList], ¬ StartsWithWord word p)
    ⟨fun ⟨h₁, h₂, h₃, h₄⟩ => ⟨h₁, all_iff.1 h₂, all_iff.1 h₃, h₄⟩,
      fun ⟨h₁, h₂, h₃, h₄⟩ => ⟨h₁, all_iff.2 h₂, all_iff.2 h₃, h₄⟩⟩

theorem IsPhrase.joinWords_words {p : List Char} (h : IsPhrase p) :
    joinWords (Text.words p) = p := by
  have hjoin := joinWords_words_normal p
  rwa [h.normal] at hjoin

theorem IsPhrase.isInner {p : List Char} (h : IsPhrase p) : ∀ w ∈ Text.words p, IsInner w := by
  intro w hw
  refine ⟨fun c hc => ⟨?_, ?_⟩, (h.words w hw).1, (h.words w hw).2⟩
  . rintro rfl
    have hblank := (isBlankFree_of_mem_words hw).isBlank ' ' hc
    rw [isBlank_space] at hblank
    cases hblank
  . rintro rfl
    exact h.no_comma (mem_of_mem_words hw hc)

theorem IsPhrase.strip_eq {p : List Char} (h : IsPhrase p) : strip p = p := by
  have hwords : ∀ w ∈ Text.words p, IsBlankFree w := fun _ => isBlankFree_of_mem_words
  have hstrip := strip_joinWords hwords
  rwa [h.joinWords_words] at hstrip

theorem IsPhrase.isPart {p : List Char} (h : IsPhrase p) : IsPart p :=
  ⟨Text.words p, h.joinWords_words.symm, h.isInner⟩

end Phrase

section Trigger

theorem clauseEnd?_eq_afterWord? {c : Char} (h : c ≠ ',') (cs : List Char) :
    clauseEnd? (c :: cs) = afterWord? " then".toList (c :: cs) := by
  unfold clauseEnd?
  split
  . rename_i heq
    exact absurd (List.cons.inj heq).1 h
  . rfl

theorem clauseEnd?_suffix {ws : List (List Char)} (hws : ∀ w ∈ ws, IsInner w) {v rest : List Char}
    (hrest : Breaks rest) (hv : v <:+ joinWords ws) (hne : v ≠ []) :
    clauseEnd? (v ++ rest) = none := by
  have hafter := afterWord?_suffix_joinWords (isUnbroken_iff.2 (by decide))
    (fun w hw => ⟨(hws w hw).unbroken, (hws w hw).not_then⟩) hrest hv hne
  rcases suffix_joinWords hv hne with ⟨w, hw, c, hc, r, rfl⟩ | ⟨w, hw, r, hr, rfl⟩
  . exact (clauseEnd?_eq_afterWord? ((hws w hw).unbroken c hc).2 _).trans hafter
  . exact (clauseEnd?_eq_afterWord? (by decide) _).trans hafter

theorem clauseEnd?_text {c : Connective} (h : c ≠ .andWord) (rest : List Char) :
    ∃ after, clauseEnd? (c.text ++ rest) = some after := by
  cases c with
  | comma => exact ⟨_, rfl⟩
  | thenWord =>
    have hword : afterWord? " then".toList (" then".toList ++ ' ' :: rest) = some (' ' :: rest) :=
      afterWord?_append isWord_space
    exact ⟨' ' :: rest, (clauseEnd?_eq_afterWord? (by decide) _).trans hword⟩
  | andWord => exact absurd rfl h

theorem linked_cons (l : Connective × List Char) (links : List (Connective × List Char)) :
    linked (l :: links) = l.1.text ++ (l.2 ++ linked links) := by
  simp [linked]

theorem announced_eq (trigger : List Char) (links : List (Connective × List Char)) :
    announced trigger links = "when ".toList ++ (trigger ++ linked links) := rfl

theorem announced_ne_nil (trigger : List Char) (links : List (Connective × List Char)) :
    announced trigger links ≠ [] :=
  List.cons_ne_nil _ _

theorem trigger?_announced {text : String} {trigger : List Char}
    {links : List (Connective × List Char)} (htext : normal text.toList = announced trigger links)
    (htrigger : IsPhrase trigger) (hne : links ≠ [])
    (hfirst : ∀ l ∈ links.head?, l.1 ≠ .andWord) :
    trigger? text = some (Clause.of .trigger trigger) := by
  obtain ⟨l, links, rfl⟩ := List.exists_cons_of_ne_nil hne
  obtain ⟨ws, hjoin, hws⟩ := htrigger.isPart
  obtain ⟨after, hend⟩ := clauseEnd?_text (hfirst l rfl) (l.2 ++ linked links)
  rw [← linked_cons] at hend
  have hshortest : shortest clauseEnd? (trigger ++ linked (l :: links)) = some (trigger, after) := by
    apply shortest_append htrigger.ne_nil _ hend
    intro v hv hne
    rw [hjoin] at hv
    rw [linked_cons]
    exact clauseEnd?_suffix hws (breaks_text _ _) hv hne
  have hat : (TriggerForm.mk ["when ".toList] false).at? (announced trigger (l :: links)) =
      some trigger := by
    rw [TriggerForm.at?, List.findSome?_singleton, announced_eq, after?_append, Option.bind_some]
    exact congrArg (Option.map (·.1)) hshortest
  have hfind : (TriggerForm.mk ["when ".toList] false).find? (normal text.toList) =
      some trigger := by
    rw [htext, TriggerForm.find?, search_of_head (announced_ne_nil _ _) hat, Option.map_some,
      htrigger.strip_eq]
  rw [trigger?, triggerSpan?, triggerForms, List.findSome?_cons, hfind]
  rfl

end Trigger

section Actions

variable {trigger : List Char} {links : List (Connective × List Char)}

theorem isInner_when : IsInner "when".toList := by
  refine ⟨isUnbroken_iff.2 (by decide), by decide, by decide⟩

theorem isPart_pad {p : List Char} (h : IsPhrase p) (c : Connective) : IsPart (c.pad ++ p) := by
  cases c with
  | comma => exact isInner_nil.cons h.isPart h.ne_nil
  | thenWord => exact h.isPart
  | andWord => exact h.isPart

theorem linked_eq (links : List (Connective × List Char)) :
    linked links =
      (links.map fun l => (l.1, l.1.pad ++ l.2)).flatMap fun l => l.1.mark ++ l.2 := by
  simp [linked, Connective.text, List.flatMap_map]

theorem segments_announced (htrigger : IsPhrase trigger) (hlinks : ∀ l ∈ links, IsPhrase l.2) :
    (segments (announced trigger links)).drop 1 = links.map fun l => l.1.pad ++ l.2 := by
  have hlead : ∀ cs, "when ".toList ++ cs = "when".toList ++ ' ' :: cs := fun _ => rfl
  have hparts : ∀ l ∈ links.map fun l => (l.1, l.1.pad ++ l.2), IsPart l.2 := by
    intro l hl
    obtain ⟨l', hl', rfl⟩ := List.mem_map.1 hl
    exact isPart_pad (hlinks l' hl') l'.1
  have hjoin := segments_join (isInner_when.cons htrigger.isPart htrigger.ne_nil) hparts
  rw [announced_eq, hlead, linked_eq, ← List.cons_append, ← List.append_assoc, hjoin, List.drop_one,
    List.tail_cons, List.map_map]
  rfl

theorem stripWhere_isOuterMark {p : List Char} (h : IsActionPhrase p) (c : Connective) :
    stripWhere isOuterMark (c.pad ++ p) = p := by
  have hpad : c.pad.all isOuterMark = true := by
    cases c <;> decide
  rw [stripWhere_append (List.all_eq_true.1 hpad)]
  apply stripWhere_eq_self
  . intro d hd
    simpa [isOuterMark] using h.head d hd
  . intro d hd
    simpa [isOuterMark] using h.last d hd

theorem opensCondition_eq_false {p : List Char} (h : IsActionPhrase p) :
    opensCondition p = false := by
  rw [opensCondition, afterAnyWord?_eq_none]
  . rfl
  . exact h.no_condition

theorem actionSpans_links (h : ∀ l ∈ links, IsActionPhrase l.2) :
    actionSpans (links.map fun l => l.1.pad ++ l.2) = links.map (·.2) := by
  have hstrip : (links.map fun l => l.1.pad ++ l.2).map (stripWhere isOuterMark) =
      links.map (·.2) := by
    rw [List.map_map]
    exact List.map_congr_left fun l hl => stripWhere_isOuterMark (h l hl) l.1
  rw [actionSpans, hstrip, List.filter_eq_self]
  intro p hp
  obtain ⟨l, hl, rfl⟩ := List.mem_map.1 hp
  simp [opensCondition_eq_false (h l hl), (h l hl).ne_nil]

def cardText : String := "When  a Card moves, tag it then ping us and log it"

def cardLinks : List (Connective × List Char) := [
  (.comma, "tag it".toList),
  (.thenWord, "ping us".toList),
  (.andWord, "log it".toList)
]

end Actions

end Automation.Description
