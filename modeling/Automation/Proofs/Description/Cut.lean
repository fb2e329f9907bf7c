import Mathlib.Data.List.Forall2
import Automation.Proofs.Description.Normal
import Automation.Proofs.Description.Segments
import Automation.Proofs.Text.Strip

/-!
This module contains the cut of a description at its connectives, told without the scan that makes
it. There is just one cut at the leftmost connectives that do not overlap, and the actions of a
description are told by the parts between them.
-/

namespace Automation.Description

open Text

inductive IsConnective : List Char → Prop
  | comma : IsConnective [',']
  | word (before word after : List Char) :
      before ≠ [] → (∀ c ∈ before, Text.isBlank c = true) → word ∈ ["then".toList, "and".toList] →
      after ≠ [] → (∀ c ∈ after, Text.isBlank c = true) → IsConnective (before ++ word ++ after)

def NoneBegins (part rest : List Char) : Prop :=
  ∀ v, v <:+ part → v ≠ [] → ∀ c, IsConnective c → ¬ c <+: v ++ rest

abbrev Links := List (List Char × List Char)

def Links.text (links : Links) : List Char :=
  links.flatMap fun l => l.1 ++ l.2

@[simp]
theorem Links.text_nil : Links.text [] = [] := rfl

@[simp]
theorem Links.text_cons (c next : List Char) (links : Links) :
    Links.text ((c, next) :: links) = c ++ (next ++ links.text) := by
  simp [Links.text]

/-- Whether each connective is the first that begins after the one before it. -/
inductive IsLeftmost : List Char → Links → Prop
  | last {part : List Char} : NoneBegins part [] → IsLeftmost part []
  | link {part c next : List Char} {links : Links} : IsConnective c →
      NoneBegins part (c ++ (next ++ links.text)) → IsLeftmost next links →
      IsLeftmost part ((c, next) :: links)

structure Cut where
  first : List Char
  links : Links
  deriving Repr, DecidableEq

namespace Cut

def text (cut : Cut) : List Char :=
  cut.first ++ cut.links.text

def parts (cut : Cut) : List (List Char) :=
  cut.first :: cut.links.map (·.2)

end Cut

structure IsCut (cs : List Char) (cut : Cut) : Prop where
  text : cut.text = cs
  leftmost : IsLeftmost cut.first cut.links
  clean : ∀ part ∈ cut.parts, ∀ c, IsConnective c → ¬ c <:+: part

section Connective

theorem IsConnective.ne_nil {c : List Char} (h : IsConnective c) : c ≠ [] := by
  cases h with
  | comma => simp
  | word _ _ _ hne => simp [hne]

theorem isConnective_mark (c : Connective) : IsConnective c.mark := by
  have hspace : ∀ d ∈ [' '], Text.isBlank d = true := by simp [isBlank_space]
  cases c with
  | comma => exact .comma
  | thenWord => exact .word _ "then".toList _ (by simp) hspace (by decide) (by simp) hspace
  | andWord => exact .word _ "and".toList _ (by simp) hspace (by decide) (by simp) hspace

theorem IsConnective.exists_mark {c : List Char} (h : IsConnective c) (hspaced : IsSpaced c) :
    ∃ m : Connective, m.mark = c := by
  cases h with
  | comma => exact ⟨.comma, rfl⟩
  | word before word after hbefore hbefore' hword hafter hafter' =>
    have hb := hspaced.within ((List.prefix_append before word).isInfix.trans
      (List.prefix_append _ after).isInfix)
    have ha := hspaced.within (List.suffix_append (before ++ word) after).isInfix
    rw [hb.eq_singleton hbefore hbefore', ha.eq_singleton hafter hafter']
    simp only [List.mem_cons, List.not_mem_nil, or_false] at hword
    rcases hword with rfl | rfl
    . exact ⟨.thenWord, rfl⟩
    . exact ⟨.andWord, rfl⟩

theorem mark_eq_of_starts {m m' : Connective} (h : m.mark <+: m'.mark) : m = m' := by
  revert h
  cases m <;> cases m' <;> decide

theorem mark_eq_of_append {m m' : Connective} {cs cs' : List Char}
    (h : m.mark ++ cs = m'.mark ++ cs') : m = m' := by
  rcases List.prefix_or_prefix_of_prefix ⟨cs, h⟩ (List.prefix_append m'.mark cs') with hm | hm
  . exact mark_eq_of_starts hm
  . exact (mark_eq_of_starts hm).symm

theorem mem_connectives_iff {c : List Char} : c ∈ connectives ↔ ∃ m : Connective, m.mark = c := by
  constructor
  . intro hc
    simp only [connectives, List.mem_cons, List.not_mem_nil, or_false] at hc
    rcases hc with rfl | rfl | rfl
    . exact ⟨.thenWord, rfl⟩
    . exact ⟨.andWord, rfl⟩
    . exact ⟨.comma, rfl⟩
  . rintro ⟨m, rfl⟩
    cases m <;> decide

theorem exists_mark_of_connectiveLength? {cs : List Char} {n : Nat}
    (h : connectiveLength? cs = some n) : ∃ (m : Connective) (rest : List Char),
      cs = m.mark ++ rest := by
  obtain ⟨c, hfind, -⟩ := Option.map_eq_some_iff.1 h
  obtain ⟨m, rfl⟩ := mem_connectives_iff.1 (List.mem_of_find?_eq_some hfind)
  have hfound := List.find?_some hfind
  obtain ⟨rest, hrest⟩ := List.isPrefixOf_iff_prefix.1 hfound
  exact ⟨m, rest, hrest.symm⟩

theorem not_starts_of_connectiveLength? {cs c : List Char} (h : connectiveLength? cs = none)
    (hspaced : IsSpaced cs) (hc : IsConnective c) : ¬ c <+: cs := by
  intro hstarts
  obtain ⟨m, rfl⟩ := hc.exists_mark (hspaced.within hstarts.isInfix)
  obtain ⟨rest, rfl⟩ := hstarts
  rw [connectiveLength?_mark] at h
  cases h

end Connective

section Exists

theorem noneBegins_nil (rest : List Char) : NoneBegins [] rest := by
  intro v hv hne
  exact absurd (List.suffix_nil.1 hv) hne

theorem NoneBegins.cons {d : Char} {part rest : List Char} (h : NoneBegins part rest)
    (hhere : ∀ c, IsConnective c → ¬ c <+: d :: (part ++ rest)) : NoneBegins (d :: part) rest := by
  intro v hv hne
  rcases List.suffix_cons_iff.1 hv with rfl | hv
  . exact hhere
  . exact h v hv hne

theorem NoneBegins.not_within {part rest c : List Char} (h : NoneBegins part rest)
    (hc : IsConnective c) : ¬ c <:+: part := by
  intro hwithin
  obtain ⟨v, hstarts, hsuffix⟩ := List.infix_iff_prefix_suffix.1 hwithin
  have hne : v ≠ [] := by
    rintro rfl
    exact hc.ne_nil (List.prefix_nil.1 hstarts)
  exact h v hsuffix hne c hc (hstarts.trans (List.prefix_append v rest))

theorem IsLeftmost.noneBegins {part : List Char} {links : Links} (h : IsLeftmost part links) :
    NoneBegins part links.text := by
  cases h with
  | last hpart => exact hpart
  | link _ hpart _ =>
    rw [Links.text_cons]
    exact hpart

theorem IsLeftmost.cons {d : Char} {part : List Char} {links : Links} (h : IsLeftmost part links)
    (hhere : ∀ c, IsConnective c → ¬ c <+: d :: (part ++ links.text)) :
    IsLeftmost (d :: part) links := by
  cases h with
  | last hpart => exact .last (hpart.cons hhere)
  | link hc hpart hnext =>
    rw [Links.text_cons] at hhere
    exact .link hc (hpart.cons hhere) hnext

theorem IsLeftmost.clean {part : List Char} {links : Links} (h : IsLeftmost part links) :
    ∀ p ∈ part :: links.map (·.2), ∀ c, IsConnective c → ¬ c <:+: p := by
  induction h with
  | last hpart =>
    rw [List.map_nil, List.forall_mem_singleton]
    exact fun c hc => hpart.not_within hc
  | link _ hpart _ ih =>
    rw [List.forall_mem_cons]
    exact ⟨fun c hc => hpart.not_within hc, ih⟩

theorem exists_segments_go {cs : List Char} (hspaced : IsSpaced cs) (part : List Char) :
    ∃ (next : List Char) (links : Links), IsLeftmost next links ∧ next ++ links.text = cs ∧
      segments.go 0 part cs = (part.reverse ++ next) :: links.map (·.2) := by
  -- A connective is skipped as a whole, so the induction is on how much is left.
  induction hlength : cs.length using Nat.strongRecOn generalizing cs part with
  | ind n ih =>
    cases cs with
    | nil => exact ⟨[], [], .last (noneBegins_nil []), rfl, by simp [segments.go]⟩
    | cons d cs =>
      cases hhere : connectiveLength? (d :: cs) with
      | none =>
        have hcs := hspaced.within (List.suffix_cons d cs).isInfix
        obtain ⟨next, links, hleft, rfl, hgo⟩ :=
          ih _ (by simp [← hlength]) hcs (d :: part) rfl
        refine ⟨d :: next, links, hleft.cons ?_, rfl, ?_⟩
        . exact fun c hc => not_starts_of_connectiveLength? hhere hspaced hc
        . rw [segments.go, hhere]
          dsimp only
          rw [hgo]
          simp
      | some k =>
        obtain ⟨m, rest, heq⟩ := exists_mark_of_connectiveLength? hhere
        rw [heq] at hspaced hlength ⊢
        have hrest := hspaced.within (List.suffix_append m.mark rest).isInfix
        have hshort : rest.length < n := by
          rw [← hlength, List.length_append]
          have := List.length_pos_iff.2 (isConnective_mark m).ne_nil
          omega
        obtain ⟨next, links, hleft, rfl, hgo⟩ := ih _ hshort hrest [] rfl
        refine ⟨[], (m.mark, next) :: links, ?_, ?_, ?_⟩
        . exact .link (isConnective_mark m) (noneBegins_nil _) hleft
        . simp
        . rw [segments_go_mark, hgo]
          simp

theorem exists_isCut {cs : List Char} (hspaced : IsSpaced cs) :
    ∃ cut, IsCut cs cut ∧ segments cs = cut.parts := by
  obtain ⟨first, links, hleft, htext, hgo⟩ := exists_segments_go hspaced []
  exact ⟨⟨first, links⟩, ⟨htext, hleft, hleft.clean⟩, hgo⟩

end Exists

section Unique

/-- A part ends where the first connective begins, so no longer part makes a leftmost cut. -/
theorem IsLeftmost.append_eq_nil {part t : List Char} {links links' : Links}
    (h : IsLeftmost part links) (h' : IsLeftmost (part ++ t) links')
    (heq : links.text = t ++ links'.text) : t = [] := by
  cases h with
  | last =>
    rw [Links.text_nil, eq_comm, List.append_eq_nil_iff] at heq
    exact heq.1
  | @link _ c next links hc =>
    have hbegins : c <+: t ++ links'.text := by
      rw [← heq, Links.text_cons]
      exact List.prefix_append _ _
    by_cases hnil : t = []
    . exact hnil
    . exact absurd hbegins (h'.noneBegins t (List.suffix_append part t) hnil c hc)

theorem IsLeftmost.part_eq {part part' : List Char} {links links' : Links}
    (h : IsLeftmost part links) (h' : IsLeftmost part' links')
    (heq : part ++ links.text = part' ++ links'.text) : part = part' := by
  rcases List.append_eq_append_iff.1 heq with ⟨t, rfl, ht⟩ | ⟨t, rfl, ht⟩
  . rw [h.append_eq_nil h' ht, List.append_nil]
  . rw [h'.append_eq_nil h ht, List.append_nil]

theorem IsLeftmost.unique {part part' : List Char} {links links' : Links}
    (h : IsLeftmost part links) (h' : IsLeftmost part' links')
    (hspaced : IsSpaced (part ++ links.text))
    (heq : part ++ links.text = part' ++ links'.text) : part = part' ∧ links = links' := by
  induction h generalizing part' links' with
  | last hpart =>
    obtain rfl := (IsLeftmost.last hpart).part_eq h' heq
    refine ⟨rfl, ?_⟩
    cases h' with
    | last => rfl
    | link hc =>
      rw [List.append_cancel_left_eq, eq_comm] at heq
      simp [hc.ne_nil] at heq
  | @link part c next links hc hpart hnext ih =>
    obtain rfl := (IsLeftmost.link hc hpart hnext).part_eq h' heq
    rw [List.append_cancel_left_eq] at heq
    cases h' with
    | last => simp [hc.ne_nil] at heq
    | @link _ c' next' links' hc' _ hnext' =>
      have hlinks := hspaced.within (List.suffix_append _ _).isInfix
      have hlinks' := hlinks
      rw [heq] at hlinks'
      simp only [Links.text_cons] at heq hlinks hlinks'
      obtain ⟨m, rfl⟩ := hc.exists_mark (hlinks.within (List.prefix_append _ _).isInfix)
      obtain ⟨m', rfl⟩ := hc'.exists_mark (hlinks'.within (List.prefix_append _ _).isInfix)
      -- No connective of a spaced text begins another one, so the two are the same.
      obtain rfl := mark_eq_of_append heq
      rw [List.append_cancel_left_eq] at heq
      obtain ⟨rfl, rfl⟩ := ih hnext' (hlinks.within (List.suffix_append _ _).isInfix) heq
      exact ⟨rfl, rfl⟩

theorem IsCut.unique {cs : List Char} {cut cut' : Cut} (h : IsCut cs cut) (h' : IsCut cs cut')
    (hspaced : IsSpaced cs) : cut' = cut := by
  have heq : cut.first ++ cut.links.text = cut'.first ++ cut'.links.text := h.text.trans h'.text.symm
  rw [← h.text] at hspaced
  obtain ⟨hfirst, hlinks⟩ := h.leftmost.unique h'.leftmost hspaced heq
  cases cut
  cases cut'
  cases hfirst
  cases hlinks
  rfl

end Unique

section Actions

def IsAction (part : List Char) : Prop :=
  part ≠ [] ∧ ∀ word ∈ ["if", "when", "check"], ¬ StartsWithWord word.toList part

instance (part : List Char) : Decidable (IsAction part) :=
  inferInstanceAs (Decidable (_ ∧ _))

theorem opensCondition_eq_false_iff {cs : List Char} :
    opensCondition cs = false ↔ ∀ word ∈ conditionWords, ¬ StartsWithWord word cs := by
  rw [opensCondition, Option.isSome_eq_false_iff, Option.isNone_iff_eq_none,
    afterAnyWord?_eq_none_iff]

theorem isAction_iff {part : List Char} :
    IsAction part ↔ (!part.isEmpty && !opensCondition part) = true := by
  rw [Bool.and_eq_true, Bool.not_eq_true', Bool.not_eq_true', opensCondition_eq_false_iff,
    List.isEmpty_eq_false_iff]
  simp [IsAction, conditionWords]

theorem actionSpans_eq (parts : List (List Char)) :
    actionSpans parts = (parts.map (stripWhere isOuterMark)).filter fun part => IsAction part := by
  rw [actionSpans]
  congr 1
  funext part
  rw [Bool.eq_iff_iff, decide_eq_true_eq]
  exact isAction_iff.symm

/-- The actions of a description are the parts of its only cut, trimmed, that say what to do. -/
theorem exists_cut_actions (text : String) (hasTrigger : Bool) :
    ∃ cut, IsCut (normal text.toList) cut ∧
      (∀ cut', IsCut (normal text.toList) cut' → cut' = cut) ∧
      ∃ parts, List.Forall₂ (IsTrimmed " .;:!?".toList)
          (cut.parts.drop (if hasTrigger then 1 else 0)) parts ∧
        actions text hasTrigger = (parts.filter fun part => IsAction part).map fun part =>
          { kind := .action
            text := String.ofList part
            service := Service.detect? (String.ofList part) } := by
  have hspaced := isSpaced_normal text.toList
  obtain ⟨cut, hcut, hsegments⟩ := exists_isCut hspaced
  refine ⟨cut, hcut, fun cut' hcut' => hcut.unique hcut' hspaced,
    (cut.parts.drop (if hasTrigger then 1 else 0)).map (stripWhere isOuterMark), ?_, ?_⟩
  . rw [List.forall₂_map_right_iff, List.forall₂_same]
    intro part _
    exact isTrimmed_stripWhere (fun c => by simp [isOuterMark]) part
  . unfold actions
    dsimp only
    rw [hsegments, actionSpans_eq]
    cases hasTrigger <;> rfl

-- Connectives that share a space do not both count; empty parts and conditions are no actions.
example : (actions "Log it and and ping me, then if so stop." false).map (·.text) =
    ["log it", "and ping me"] := by
  decide +kernel

end Actions

end Automation.Description
