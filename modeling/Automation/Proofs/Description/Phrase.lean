import Automation.Description.Phrase
import Automation.Proofs.Text.Words

/-!
This module contains laws of phrases in texts. A search is made at the word starts of a text only,
and a phrase is found in words that a break ends just where it is one of them.
-/

namespace Automation.Description

open Text

section After

theorem after?_append (phrase cs : List Char) : after? phrase (phrase ++ cs) = some cs := by
  simp [after?]

theorem after?_eq_none {phrase cs : List Char} (h : ¬ phrase <+: cs) : after? phrase cs = none := by
  rw [after?, if_neg]
  rwa [List.isPrefixOf_iff_prefix]

theorem after?_eq_some_iff {phrase cs rest : List Char} :
    after? phrase cs = some rest ↔ phrase ++ rest = cs := by
  constructor
  . intro h
    by_cases hstarts : phrase <+: cs
    . obtain ⟨t, rfl⟩ := hstarts
      rw [after?_append, Option.some.injEq] at h
      rw [h]
    . rw [after?_eq_none hstarts] at h
      cases h
  . rintro rfl
    exact after?_append phrase rest

def StartsWithWord (word cs : List Char) : Prop :=
  ∃ rest, cs = word ++ rest ∧ startsInWord rest = false

instance (word cs : List Char) : Decidable (StartsWithWord word cs) :=
  decidable_of_iff (word <+: cs ∧ startsInWord (cs.drop word.length) = false) (by
    constructor
    . rintro ⟨⟨rest, rfl⟩, hrest⟩
      exact ⟨rest, rfl, by simpa using hrest⟩
    . rintro ⟨rest, rfl, hrest⟩
      exact ⟨List.prefix_append _ _, by simpa using hrest⟩)

theorem afterWord?_append {word rest : List Char} (h : startsInWord rest = false) :
    afterWord? word (word ++ rest) = some rest := by
  simp [afterWord?, after?_append, h]

theorem afterWord?_eq_some_iff {word cs rest : List Char} :
    afterWord? word cs = some rest ↔ word ++ rest = cs ∧ startsInWord rest = false := by
  rw [afterWord?, Option.filter_eq_some_iff, after?_eq_some_iff, Bool.not_eq_true']

theorem afterWord?_eq_none {word cs : List Char} (h : ¬ StartsWithWord word cs) :
    afterWord? word cs = none := by
  unfold afterWord?
  by_cases hstarts : word <+: cs
  . obtain ⟨rest, rfl⟩ := hstarts
    rw [after?_append]
    simpa [StartsWithWord] using h
  . rw [after?_eq_none hstarts]
    rfl

theorem afterAnyWord?_eq_none {words : List (List Char)} {cs : List Char}
    (h : ∀ word ∈ words, ¬ StartsWithWord word cs) : afterAnyWord? words cs = none := by
  rw [afterAnyWord?, List.findSome?_eq_none_iff]
  intro word hword
  exact afterWord?_eq_none (h word hword)

theorem afterAnyWord?_eq_none_iff {words : List (List Char)} {cs : List Char} :
    afterAnyWord? words cs = none ↔ ∀ word ∈ words, ¬ StartsWithWord word cs := by
  refine ⟨fun hnone word hword => ?_, afterAnyWord?_eq_none⟩
  rintro ⟨rest, rfl, hrest⟩
  rw [afterAnyWord?, List.findSome?_eq_none_iff] at hnone
  have hword := hnone word hword
  rw [afterWord?_append hrest] at hword
  cases hword

theorem startsWithWord_of_append {word w r : List Char} (hword : IsUnbroken word) (hr : Breaks r)
    (h : StartsWithWord word (w ++ r)) : StartsWithWord word w := by
  obtain ⟨rest, heq, hrest⟩ := h
  obtain ⟨t, rfl⟩ := prefix_of_prefix_append hword hr ⟨rest, heq.symm⟩
  refine ⟨t, rfl, ?_⟩
  rw [List.append_assoc, List.append_cancel_left_eq] at heq
  cases t with
  | nil => rfl
  | cons c t =>
    rw [← heq] at hrest
    exact hrest

end After

section Shortest

theorem shortest_append {stop : List Char → Option α} {p rest : List Char} {a : α} (hp : p ≠ [])
    (hwithin : ∀ v, v <:+ p → v ≠ [] → stop (v ++ rest) = none) (hstop : stop rest = some a) :
    shortest stop (p ++ rest) = some (p, a) := by
  induction p with
  | nil => exact absurd rfl hp
  | cons c p ih =>
    rw [List.cons_append, shortest]
    by_cases hnil : p = []
    . subst hnil
      simp [hstop]
    . rw [hwithin p (List.suffix_cons c p) hnil]
      have hrest := ih hnil fun v hv => hwithin v (hv.trans (List.suffix_cons c p))
      simp [hrest]

theorem shortest_eq_none_iff {stop : List Char → Option α} {cs : List Char} :
    shortest stop cs = none ↔
      ∀ span rest, span ++ rest = cs → span ≠ [] → stop rest = none := by
  induction cs with
  | nil =>
    constructor
    . rintro - span rest heq hne
      exact absurd (List.append_eq_nil_iff.1 heq).1 hne
    . exact fun _ => rfl
  | cons c cs ih =>
    rw [shortest]
    constructor
    . intro h span rest heq hne
      obtain ⟨d, span, rfl⟩ := List.exists_cons_of_ne_nil hne
      rw [List.cons_append, List.cons.injEq] at heq
      split at h
      . cases h
      . rename_i hhere
        by_cases hnil : span = []
        . rw [← hhere, ← heq.2, hnil, List.nil_append]
        . exact ih.1 (Option.map_eq_none_iff.1 h) span rest heq.2 hnil
    . intro h
      rw [h [c] cs rfl (List.cons_ne_nil _ _), Option.map_eq_none_iff, ih]
      intro span rest heq _
      exact h (c :: span) rest (by rw [List.cons_append, heq]) (List.cons_ne_nil _ _)

theorem exists_of_shortest {stop : List Char → Option α} {cs span : List Char} {a : α}
    (h : shortest stop cs = some (span, a)) :
    ∃ rest, span ++ rest = cs ∧ span ≠ [] ∧ stop rest = some a ∧
      ∀ span' rest', span' ++ rest' = cs → span' ≠ [] → stop rest' ≠ none → span <+: span' := by
  induction cs generalizing span with
  | nil => cases h
  | cons c cs ih =>
    rw [shortest] at h
    split at h
    . rename_i hhere
      cases h
      refine ⟨cs, rfl, List.cons_ne_nil _ _, hhere, fun span' rest' heq hne _ => ?_⟩
      obtain ⟨d, span', rfl⟩ := List.exists_cons_of_ne_nil hne
      rw [List.cons_append, List.cons.injEq] at heq
      rw [heq.1]
      exact List.prefix_append [c] span'
    . rename_i hhere
      obtain ⟨⟨span, b⟩, hrest, heq⟩ := Option.map_eq_some_iff.1 h
      cases heq
      obtain ⟨rest, rfl, -, hstop, hleast⟩ := ih hrest
      refine ⟨rest, rfl, List.cons_ne_nil _ _, hstop, fun span' rest' heq hne hstop' => ?_⟩
      obtain ⟨d, span', rfl⟩ := List.exists_cons_of_ne_nil hne
      rw [List.cons_append, List.cons.injEq] at heq
      rw [heq.1, List.cons_prefix_cons]
      refine ⟨rfl, hleast span' rest' heq.2 ?_ hstop'⟩
      rintro rfl
      rw [List.nil_append] at heq
      rw [heq.2, hhere] at hstop'
      exact hstop' rfl

/-- No phrase of a space and a word starts within joined words that do not start with the word. -/
theorem afterWord?_suffix_joinWords {word v rest : List Char} {ws : List (List Char)}
    (hword : IsUnbroken word) (hws : ∀ w ∈ ws, IsUnbroken w ∧ ¬ StartsWithWord word w)
    (hrest : Breaks rest) (hv : v <:+ joinWords ws) (hne : v ≠ []) :
    afterWord? (' ' :: word) (v ++ rest) = none := by
  apply afterWord?_eq_none
  rintro ⟨after, heq, hafter⟩
  rcases suffix_joinWords hv hne with ⟨w, hw, c, hc, r, rfl⟩ | ⟨w, hw, r, hr, rfl⟩
  . rw [List.cons_append, List.cons_append, List.cons.injEq] at heq
    exact ((hws w hw).1 c hc).1 heq.1
  . rw [List.cons_append, List.cons_append, List.cons.injEq, List.append_assoc] at heq
    apply (hws w hw).2
    exact startsWithWord_of_append hword (hr.append hrest) ⟨after, heq.2, hafter⟩

end Shortest

section WordStarts

/-- The rests of a text that have no word character before them. -/
def wordStarts (inWord : Bool) : List Char → List (List Char)
  | [] => []
  | c :: cs => (if inWord then [] else [c :: cs]) ++ wordStarts (isWord c) cs

def endsInWord (inWord : Bool) (cs : List Char) : Bool :=
  cs.foldl (fun _ c => isWord c) inWord

theorem wordStarts_append (inWord : Bool) (u v : List Char) :
    wordStarts inWord (u ++ v) =
      (wordStarts inWord u).map (· ++ v) ++ wordStarts (endsInWord inWord u) v := by
  induction u generalizing inWord with
  | nil => rfl
  | cons c u ih =>
    rw [List.cons_append, wordStarts, ih, wordStarts, List.map_append, List.append_assoc]
    cases inWord <;> rfl

theorem endsInWord_cons (inWord : Bool) (c : Char) (cs : List Char) :
    endsInWord inWord (c :: cs) = endsInWord (isWord c) cs := rfl

theorem endsInWord_append (inWord : Bool) (u v : List Char) :
    endsInWord inWord (u ++ v) = endsInWord (endsInWord inWord u) v := by
  simp [endsInWord, List.foldl_append]

theorem endsInWord_eq_false_iff {cs : List Char} :
    endsInWord false cs = false ↔ ∀ c ∈ cs.getLast?, Text.isWord c = false := by
  rcases List.eq_nil_or_concat cs with rfl | ⟨cs, c, rfl⟩
  . simp [endsInWord]
  . simp [endsInWord]

theorem search_go_eq (f : List Char → Option α) (inWord : Bool) (cs : List Char) :
    search.go f inWord cs = (wordStarts inWord cs).findSome? f := by
  induction cs generalizing inWord with
  | nil => rfl
  | cons c cs ih =>
    rw [search.go, wordStarts, List.findSome?_append, ih]
    cases inWord with
    | true => rfl
    | false =>
      rw [if_neg (by simp), if_neg (by simp), List.findSome?_singleton]
      cases f (c :: cs) <;> rfl

theorem search_eq_none {f : List Char → Option α} {cs : List Char}
    (h : ∀ s ∈ wordStarts false cs, f s = none) : search f cs = none := by
  rw [search, search_go_eq, List.findSome?_eq_none_iff]
  exact h

theorem search_of_head {f : List Char → Option α} {cs : List Char} {a : α} (hne : cs ≠ [])
    (h : f cs = some a) : search f cs = some a := by
  obtain ⟨c, cs, rfl⟩ := List.exists_cons_of_ne_nil hne
  simp [search, search.go, h]

theorem searchAll_go_append {f : List Char → Option (α × List Char)} {inWord : Bool}
    {u rest : List Char} (h : ∀ s ∈ wordStarts inWord u, f (s ++ rest) = none) :
    searchAll.go f 0 inWord (u ++ rest) = searchAll.go f 0 (endsInWord inWord u) rest := by
  induction u generalizing inWord with
  | nil => rfl
  | cons c u ih =>
    rw [wordStarts] at h
    have hhere : (if inWord = true then none else f (c :: (u ++ rest))) = none := by
      cases inWord with
      | true => rfl
      | false => exact h (c :: u) (by simp)
    rw [List.cons_append, searchAll.go, hhere]
    exact ih fun s hs => h s (List.mem_append_right _ hs)

theorem searchAll_eq_nil {f : List Char → Option (α × List Char)} {cs : List Char}
    (h : ∀ s ∈ wordStarts false cs, f s = none) : searchAll f cs = [] := by
  have hnone : ∀ s ∈ wordStarts false cs, f (s ++ []) = none := by simpa using h
  have hgo := searchAll_go_append hnone
  rw [List.append_nil] at hgo
  rw [searchAll, hgo]
  rfl

theorem searchAll_go_skip (f : List Char → Option (α × List Char)) (inWord : Bool)
    (u rest : List Char) :
    searchAll.go f u.length inWord (u ++ rest) =
      searchAll.go f 0 (endsInWord inWord u) rest := by
  induction u generalizing inWord with
  | nil => rfl
  | cons c u ih => exact ih (isWord c)

theorem searchAll_go_found {f : List Char → Option (α × List Char)} {u rest : List Char} {a : α}
    (hu : u ≠ []) (h : f (u ++ rest) = some (a, rest)) :
    searchAll.go f 0 false (u ++ rest) = a :: searchAll.go f 0 (endsInWord false u) rest := by
  obtain ⟨c, u, rfl⟩ := List.exists_cons_of_ne_nil hu
  rw [List.cons_append] at h
  have hskip := searchAll_go_skip f (isWord c) u rest
  rw [List.cons_append, searchAll.go, if_neg (by simp), h]
  dsimp only
  rw [List.length_append, Nat.add_sub_cancel, hskip]
  rfl

section Plain

structure IsPlain (w : List Char) : Prop where
  ne_nil : w ≠ []
  isWord : ∀ c ∈ w, isWord c = true

theorem isPlain_of_all {w : List Char} (hne : w ≠ []) (h : w.all isWord = true) : IsPlain w :=
  ⟨hne, by simpa using h⟩

theorem wordStarts_of_isWord {w : List Char} (h : ∀ c ∈ w, isWord c = true) :
    wordStarts true w = [] := by
  induction w with
  | nil => rfl
  | cons c w ih =>
    rw [List.forall_mem_cons] at h
    rw [wordStarts, h.1, ih h.2]
    rfl

theorem IsPlain.wordStarts_eq {w : List Char} (h : IsPlain w) : wordStarts false w = [w] := by
  obtain ⟨c, w, rfl⟩ := List.exists_cons_of_ne_nil h.ne_nil
  have hword := List.forall_mem_cons.1 h.isWord
  rw [wordStarts, hword.1, wordStarts_of_isWord hword.2]
  rfl

theorem IsPlain.endsInWord_eq {w : List Char} (h : IsPlain w) (inWord : Bool) :
    endsInWord inWord w = true := by
  obtain ⟨hne, hword⟩ := h
  induction w generalizing inWord with
  | nil => exact absurd rfl hne
  | cons c w ih =>
    rw [List.forall_mem_cons] at hword
    rw [endsInWord_cons]
    by_cases hnil : w = []
    . subst hnil
      exact hword.1
    . exact ih _ hnil hword.2

theorem isWord_space : Text.isWord ' ' = false := by
  decide +kernel

theorem isWord_comma : Text.isWord ',' = false := by
  decide +kernel

theorem mem_wordStarts_joinWords {ws : List (List Char)} (h : ∀ w ∈ ws, IsPlain w) {s : List Char}
    (hs : s ∈ wordStarts false (joinWords ws)) : ∃ w ∈ ws, ∃ r, Breaks r ∧ s = w ++ r := by
  induction ws with
  | nil => cases hs
  | cons w ws ih =>
    rw [List.forall_mem_cons] at h
    cases ws with
    | nil =>
      rw [joinWords_singleton, h.1.wordStarts_eq, List.mem_singleton] at hs
      exact ⟨w, by simp, [], breaks_nil, by simp [hs]⟩
    | cons w' ws =>
      rw [joinWords_cons_cons, wordStarts_append, h.1.wordStarts_eq, h.1.endsInWord_eq,
        wordStarts, isWord_space, List.map_singleton, List.mem_append, List.mem_singleton] at hs
      rcases hs with rfl | hs
      . exact ⟨w, by simp, _, breaks_space _, rfl⟩
      . obtain ⟨w'', hw'', r, hr, hs⟩ := ih h.2 (by simpa using hs)
        exact ⟨w'', List.mem_cons_of_mem _ hw'', r, hr, hs⟩

theorem endsInWord_joinWords {ws : List (List Char)} (h : ∀ w ∈ ws, IsPlain w) (hne : ws ≠ [])
    (inWord : Bool) : endsInWord inWord (joinWords ws) = true := by
  induction ws generalizing inWord with
  | nil => exact absurd rfl hne
  | cons w ws ih =>
    rw [List.forall_mem_cons] at h
    cases ws with
    | nil => rw [joinWords_singleton, h.1.endsInWord_eq]
    | cons w' ws =>
      rw [joinWords_cons_cons, endsInWord_append, endsInWord_cons, ih h.2 (List.cons_ne_nil _ _)]

end Plain

end WordStarts

end Automation.Description
