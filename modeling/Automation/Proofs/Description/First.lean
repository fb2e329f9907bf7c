import Automation.Proofs.Description.Phrase

/-!
This module contains what the phrases of a kind tell. They stand at the word starts of a text, and a
search that reads just these phrases finds what the first of them tells.
-/

namespace Automation.Description

open Text

structure Stands (kind : List Char → β → Prop) (cs before : List Char) (b : β) : Prop where
  phrase : ∃ phrase after, kind phrase b ∧ before ++ (phrase ++ after) = cs ∧
    startsInWord after = false
  wordStart : ∀ c ∈ before.getLast?, isWord c = false

def TellsFirst (kind : List Char → β → Prop) (cs : List Char) (b : β) : Prop :=
  ∃ before, Stands kind cs before b ∧ ∀ before' b', Stands kind cs before' b' → before <+: before'

def HasWord (word : String) (cs : List Char) : Prop :=
  ∃ before, Stands (fun phrase (_ : Unit) => phrase = word.toList) cs before ()

section Search

variable {cs : List Char} {inWord : Bool}

theorem mem_wordStarts_iff {s : List Char} :
    s ∈ wordStarts inWord cs ↔ s ≠ [] ∧ ∃ before, before ++ s = cs ∧
      endsInWord inWord before = false := by
  induction cs generalizing inWord with
  | nil =>
    refine iff_of_false List.not_mem_nil ?_
    rintro ⟨hne, before, heq, -⟩
    exact hne (List.append_eq_nil_iff.1 heq).2
  | cons c cs ih =>
    have hhere : s ∈ (if inWord then [] else [c :: cs]) ↔ s = c :: cs ∧ inWord = false := by
      cases inWord <;> simp
    rw [wordStarts, List.mem_append, hhere, ih]
    constructor
    . rintro (⟨rfl, hstart⟩ | ⟨hne, before, rfl, hstart⟩)
      . exact ⟨List.cons_ne_nil _ _, [], rfl, hstart⟩
      . exact ⟨hne, c :: before, rfl, hstart⟩
    . rintro ⟨hne, before, heq, hstart⟩
      cases before with
      | nil => exact .inl ⟨heq, hstart⟩
      | cons d before =>
        rw [List.cons_append, List.cons.injEq] at heq
        obtain ⟨rfl, heq⟩ := heq
        exact .inr ⟨hne, before, heq, hstart⟩

theorem pairwise_wordStarts (inWord : Bool) (cs : List Char) :
    (wordStarts inWord cs).Pairwise fun s s' => s' <:+ s := by
  induction cs generalizing inWord with
  | nil => exact .nil
  | cons c cs ih =>
    rw [wordStarts, List.pairwise_append]
    refine ⟨by cases inWord <;> simp, ih _, fun s hs s' hs' => ?_⟩
    obtain ⟨-, before, heq, -⟩ := mem_wordStarts_iff.1 hs'
    have hs : s = c :: cs := by
      cases inWord with
      | true => cases hs
      | false => exact List.mem_singleton.1 hs
    rw [hs, ← heq]
    exact ⟨c :: before, rfl⟩

theorem prefix_of_suffix {before before' s s' : List Char} (h : before ++ s = cs)
    (h' : before' ++ s' = cs) (hsuffix : s' <:+ s) : before <+: before' := by
  refine List.prefix_of_prefix_length_le ⟨s, h⟩ ⟨s', h'⟩ ?_
  have hlength := congrArg List.length (h.trans h'.symm)
  have hle := hsuffix.length_le
  rw [List.length_append, List.length_append] at hlength
  omega

end Search

section Phrases

variable {kind : List Char → β → Prop} {f : List Char → Option β} {cs : List Char} {b : β}

structure IsReaderOf (f : List Char → Option β) (kind : List Char → β → Prop) : Prop where
  ne_nil : ∀ {phrase b}, kind phrase b → phrase ≠ []
  read : ∀ {rest b}, IsSpaced rest → (f rest = some b ↔
    ∃ phrase after, kind phrase b ∧ phrase ++ after = rest ∧ startsInWord after = false)

theorem IsReaderOf.stands_iff (h : IsReaderOf f kind) (hspaced : IsSpaced cs) {before : List Char} :
    Stands kind cs before b ↔ ∃ s ∈ wordStarts false cs, before ++ s = cs ∧ f s = some b := by
  constructor
  . rintro ⟨⟨phrase, after, hkind, heq, hafter⟩, hstart⟩
    have hne : phrase ++ after ≠ [] := by simp [h.ne_nil hkind]
    refine ⟨phrase ++ after, mem_wordStarts_iff.2 ⟨hne, before, heq, ?_⟩, heq, ?_⟩
    . exact endsInWord_eq_false_iff.2 hstart
    . rw [← heq] at hspaced
      exact (h.read (hspaced.within (List.suffix_append _ _).isInfix)).2
        ⟨phrase, after, hkind, rfl, hafter⟩
  . rintro ⟨s, hs, heq, hread⟩
    obtain ⟨-, before', heq', hstart⟩ := mem_wordStarts_iff.1 hs
    have hsame : before' = before := List.append_cancel_right (heq'.trans heq.symm)
    rw [hsame] at hstart
    rw [← heq] at hspaced
    obtain ⟨phrase, after, hkind, rfl, hafter⟩ :=
      (h.read (hspaced.within (List.suffix_append _ _).isInfix)).1 hread
    exact ⟨⟨phrase, after, hkind, heq, hafter⟩, endsInWord_eq_false_iff.1 hstart⟩

theorem IsReaderOf.tellsFirst (h : IsReaderOf f kind) (hspaced : IsSpaced cs)
    (hsearch : search f cs = some b) : TellsFirst kind cs b := by
  -- No earlier word start reads a phrase, and the later ones stand further on.
  rw [search, search_go_eq, List.findSome?_eq_some_iff] at hsearch
  obtain ⟨earlier, s, later, hstarts, hread, hnone⟩ := hsearch
  have hs : s ∈ wordStarts false cs := by simp [hstarts]
  obtain ⟨-, before, heq, -⟩ := mem_wordStarts_iff.1 hs
  refine ⟨before, (h.stands_iff hspaced).2 ⟨s, hs, heq, hread⟩, fun before' b' hstands => ?_⟩
  obtain ⟨s', hs', heq', hread'⟩ := (h.stands_iff hspaced).1 hstands
  apply prefix_of_suffix heq heq'
  rw [hstarts, List.mem_append, List.mem_cons] at hs'
  rcases hs' with hearlier | rfl | hlater
  . rw [hnone s' hearlier] at hread'
    cases hread'
  . exact List.suffix_refl _
  . have hpairwise := pairwise_wordStarts false cs
    rw [hstarts, List.pairwise_append, List.pairwise_cons] at hpairwise
    exact hpairwise.2.1.1 s' hlater

theorem IsReaderOf.search_eq_none_iff (h : IsReaderOf f kind) (hspaced : IsSpaced cs) :
    search f cs = none ↔ ∀ before b, ¬ Stands kind cs before b := by
  rw [search, search_go_eq, List.findSome?_eq_none_iff]
  constructor
  . intro hnone before b hstands
    obtain ⟨s, hs, -, hread⟩ := (h.stands_iff hspaced).1 hstands
    rw [hnone s hs] at hread
    cases hread
  . intro hno s hs
    obtain ⟨-, before, heq, -⟩ := mem_wordStarts_iff.1 hs
    rw [Option.eq_none_iff_forall_ne_some]
    intro b hread
    exact hno before b ((h.stands_iff hspaced).2 ⟨s, hs, heq, hread⟩)

/-- A search for phrases of a kind finds what the first of them tells. -/
theorem IsReaderOf.search_eq_some_iff (h : IsReaderOf f kind) (hspaced : IsSpaced cs) :
    search f cs = some b ↔ TellsFirst kind cs b := by
  refine ⟨h.tellsFirst hspaced, ?_⟩
  rintro ⟨before, hstands, hfirst⟩
  cases hsearch : search f cs with
  | none => exact absurd hstands ((h.search_eq_none_iff hspaced).1 hsearch before b)
  | some b' =>
    obtain ⟨before', hstands', hfirst'⟩ := h.tellsFirst hspaced hsearch
    obtain rfl : before = before' :=
      prefix_antisymm (hfirst before' b' hstands') (hfirst' before b hstands)
    obtain ⟨s, -, heq, hread⟩ := (h.stands_iff hspaced).1 hstands
    obtain ⟨s', -, heq', hread'⟩ := (h.stands_iff hspaced).1 hstands'
    rw [← heq, List.append_cancel_left_eq] at heq'
    rw [← hread', ← hread, heq']

end Phrases

section Words

variable {cs : List Char}

theorem isReaderOf_afterWord? {word : String} (hne : word.toList ≠ []) :
    IsReaderOf (fun rest => (afterWord? word.toList rest).map fun _ => ())
      (fun phrase (_ : Unit) => phrase = word.toList) := by
  constructor
  . rintro phrase - rfl
    exact hne
  . intro rest b _
    rw [Option.map_eq_some_iff]
    constructor
    . rintro ⟨after, hafter, -⟩
      obtain ⟨heq, hword⟩ := afterWord?_eq_some_iff.1 hafter
      exact ⟨_, after, rfl, heq, hword⟩
    . rintro ⟨_, after, rfl, heq, hword⟩
      exact ⟨after, afterWord?_eq_some_iff.2 ⟨heq, hword⟩, rfl⟩

theorem search_map (f : List Char → Option α) (g : α → β) (cs : List Char) :
    (search f cs).map g = search (fun rest => (f rest).map g) cs := by
  rw [search, search, search_go_eq, search_go_eq, List.map_findSome?]
  rfl

theorem search_afterWord?_iff {word : String} (hne : word.toList ≠ []) (hspaced : IsSpaced cs) :
    (search (afterWord? word.toList) cs).isSome = true ↔ HasWord word cs := by
  have hnone := (isReaderOf_afterWord? hne).search_eq_none_iff hspaced
  rw [← search_map, Option.map_eq_none_iff] at hnone
  rw [← Option.ne_none_iff_isSome, Ne, hnone]
  simp only [Classical.not_forall, Classical.not_not]
  exact ⟨fun ⟨before, _, h⟩ => ⟨before, h⟩, fun ⟨before, h⟩ => ⟨before, (), h⟩⟩

end Words

end Automation.Description
