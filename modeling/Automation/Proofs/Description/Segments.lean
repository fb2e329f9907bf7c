import Automation.Description.Clause
import Automation.Proofs.Description.Phrase

/-!
This module contains laws of the parts that connectives cut a description into. Where parts without
connectives in them are joined by connectives, the cut gives the same parts again.
-/

namespace Automation.Description

open Text

inductive Connective where
  | comma
  | thenWord
  | andWord
  deriving Repr, DecidableEq

namespace Connective

/-- What the cut takes out. -/
def mark : Connective → List Char
  | comma => [',']
  | thenWord => " then ".toList
  | andWord => " and ".toList

/-- What is written after the mark and stays with the next part. -/
def pad : Connective → List Char
  | comma => [' ']
  | thenWord => []
  | andWord => []

def text (c : Connective) : List Char :=
  c.mark ++ c.pad

end Connective

structure IsInner (w : List Char) : Prop where
  unbroken : IsUnbroken w
  ne_and : w ≠ "and".toList
  not_then : ¬ StartsWithWord "then".toList w

def IsPart (p : List Char) : Prop :=
  ∃ ws, p = joinWords ws ∧ ∀ w ∈ ws, IsInner w

section Cut

theorem isInner_nil : IsInner [] :=
  ⟨by simp [IsUnbroken], by decide, by decide⟩

theorem IsInner.cons {w p : List Char} (hw : IsInner w) (hp : IsPart p) (hne : p ≠ []) :
    IsPart (w ++ ' ' :: p) := by
  obtain ⟨ws, rfl, hws⟩ := hp
  refine ⟨w :: ws, (joinWords_cons w ?_).symm, List.forall_mem_cons.2 ⟨hw, hws⟩⟩
  rintro rfl
  exact hne rfl

theorem isUnbroken_iff {w : List Char} :
    IsUnbroken w ↔ w.all (fun c => c != ' ' && c != ',') = true := by
  simp [IsUnbroken]

theorem connectiveLength?_mark (c : Connective) (rest : List Char) :
    connectiveLength? (c.mark ++ rest) = some c.mark.length := by
  cases c <;> rfl

theorem breaks_mark (c : Connective) (rest : List Char) : Breaks (c.mark ++ rest) := by
  cases c with
  | comma => exact breaks_comma _
  | thenWord => exact breaks_space _
  | andWord => exact breaks_space _

theorem breaks_text (c : Connective) (rest : List Char) : Breaks (c.text ++ rest) := by
  rw [Connective.text, List.append_assoc]
  exact breaks_mark c _

theorem connectiveLength?_eq_none {ws : List (List Char)} (hws : ∀ w ∈ ws, IsInner w)
    {v rest : List Char} (hrest : Breaks rest) (hv : v <:+ joinWords ws) (hne : v ≠ []) :
    connectiveLength? (v ++ rest) = none := by
  have hfound : ∀ c ∈ connectives, ¬ c <+: v ++ rest := by
    simp only [connectives, List.forall_mem_cons]
    rcases suffix_joinWords hv hne with ⟨w, hw, c, hc, r, rfl⟩ | ⟨w, hw, r, hr, rfl⟩
    . have hc := (hws w hw).unbroken c hc
      refine ⟨fun h => ?_, fun h => ?_, fun h => ?_, by simp⟩
      . exact hc.1 (List.cons_prefix_cons.1 h).1.symm
      . exact hc.1 (List.cons_prefix_cons.1 h).1.symm
      . exact hc.2 (List.cons_prefix_cons.1 h).1.symm
    . have hw := hws w hw
      have hword : ∀ {p : List Char}, IsUnbroken p →
          ' ' :: (p ++ [' ']) <+: ' ' :: (w ++ r) ++ rest → w = p := by
        intro p hp hstarts
        rw [List.cons_append, List.cons_prefix_cons, List.append_assoc] at hstarts
        exact eq_of_phrase_followed hp hw.unbroken (hr.append hrest) hstarts.2
      refine ⟨fun hthen => hw.not_then ?_, fun hand => hw.ne_and ?_, ?_, by simp⟩
      . exact ⟨[], by rw [List.append_nil]; exact hword (isUnbroken_iff.2 (by decide)) hthen, rfl⟩
      . exact hword (isUnbroken_iff.2 (by decide)) hand
      . simp [List.cons_prefix_cons]
  rw [connectiveLength?, Option.map_eq_none_iff, List.find?_eq_none]
  intro c hc
  rw [List.isPrefixOf_iff_prefix]
  exact hfound c hc

theorem segments_go_append {p rest : List Char}
    (h : ∀ v, v <:+ p → v ≠ [] → connectiveLength? (v ++ rest) = none) (part : List Char) :
    segments.go 0 part (p ++ rest) = segments.go 0 (p.reverse ++ part) rest := by
  induction p generalizing part with
  | nil => rfl
  | cons c p ih =>
    have hhere := h (c :: p) (List.suffix_refl _) (List.cons_ne_nil _ _)
    rw [List.cons_append] at hhere
    rw [List.cons_append, segments.go, hhere]
    dsimp only
    rw [ih fun v hv => h v (hv.trans (List.suffix_cons c p))]
    simp

theorem segments_go_skip (u rest part : List Char) :
    segments.go u.length part (u ++ rest) = segments.go 0 part rest := by
  induction u with
  | nil => rfl
  | cons c u ih => exact ih

theorem segments_go_mark (c : Connective) (part rest : List Char) :
    segments.go 0 part (c.mark ++ rest) = part.reverse :: segments.go 0 [] rest := by
  have hlength := connectiveLength?_mark c rest
  obtain ⟨d, u, hmark⟩ : ∃ d u, c.mark = d :: u := by
    cases c <;> exact ⟨_, _, rfl⟩
  rw [hmark, List.cons_append] at hlength ⊢
  rw [segments.go, hlength]
  exact congrArg _ (segments_go_skip u rest [])

theorem segments_join {p : List Char} (hp : IsPart p) {links : List (Connective × List Char)}
    (hlinks : ∀ l ∈ links, IsPart l.2) :
    segments (p ++ links.flatMap fun l => l.1.mark ++ l.2) = p :: links.map (·.2) := by
  induction links generalizing p with
  | nil =>
    obtain ⟨ws, rfl, hws⟩ := hp
    rw [List.flatMap_nil, segments, segments_go_append fun _ hv hne =>
      connectiveLength?_eq_none hws breaks_nil hv hne]
    simp [segments.go]
  | cons l links ih =>
    obtain ⟨ws, rfl, hws⟩ := hp
    rw [List.forall_mem_cons] at hlinks
    have hrest := ih hlinks.1 hlinks.2
    rw [segments] at hrest
    rw [List.flatMap_cons, List.append_assoc, segments, segments_go_append fun _ hv hne =>
      connectiveLength?_eq_none hws (breaks_mark _ _) hv hne, segments_go_mark, hrest]
    simp

end Cut

end Automation.Description
