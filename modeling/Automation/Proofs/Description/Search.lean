import Automation.Proofs.Description.Pattern

/-!
This module contains searches for patterns. A search finds the first occurrence of a pattern in a
text, or all occurrences from left to right that do not overlap, and there is just one list of
those.
-/

namespace Automation.Description.Pattern

open Text

variable {pattern : Pattern} {cs : List Char}

section Places

theorem Occurs.not_prefix {o : Occurrence} (ho : pattern.Occurs cs o) : ¬ cs <+: o.before := by
  intro hprefix
  have hlength := hprefix.length_le
  have hspan := List.length_pos_iff.2 ho.span_ne_nil
  rw [← ho.text, Occurrence.rest] at hlength
  simp only [List.length_append] at hlength
  omega

theorem Occurs.prefix_cases {o : Occurrence} (ho : pattern.Occurs cs o) {before rest : List Char}
    {c : Char} (htext : before ++ c :: rest = cs) (h : before <+: o.before) :
    o.before = before ∨ before ++ [c] <+: o.before := by
  obtain ⟨t, ht⟩ := h
  cases t with
  | nil => exact .inl (by rw [← ht, List.append_nil])
  | cons d t =>
    have heq := ho.text
    rw [← htext, ← ht, List.append_assoc, List.append_cancel_left_eq, List.cons_append,
      List.cons.injEq] at heq
    exact .inr ⟨t, by rw [← ht, heq.1, List.append_assoc, List.singleton_append]⟩

variable {f : List Char → Option β} {view : Occurrence → β} {before rest : List Char}

theorem IsReadBy.ne_before (h : pattern.IsReadBy cs f view) (htext : before ++ rest = cs)
    (hhere : (if endsInWord false before then none else f rest) = none) {o : Occurrence}
    (ho : pattern.Occurs cs o) : o.before ≠ before := by
  rintro rfl
  rw [if_neg (by simp [endsInWord_eq_false_iff.2 ho.wordStart])] at hhere
  exact h.missed htext hhere o ho rfl

theorem IsReadBy.exists_here (h : pattern.IsReadBy cs f view) (htext : before ++ rest = cs) {b : β}
    (hhere : (if endsInWord false before then none else f rest) = some b) :
    endsInWord false before = false ∧
      ∃ o, pattern.IsChosen cs o ∧ o.before = before ∧ view o = b := by
  split at hhere
  . cases hhere
  . rename_i hstart
    rw [Bool.not_eq_true] at hstart
    exact ⟨hstart, h.found htext hstart hhere⟩

end Places

section First

variable {f : List Char → Option β} {view : Occurrence → β}

theorem IsReadBy.exists_search_go (h : pattern.IsReadBy cs f view) {before rest : List Char}
    (htext : before ++ rest = cs) :
    ∃ found : Option Occurrence,
      search.go f (endsInWord false before) rest = found.map view ∧
      (∀ o ∈ found, pattern.IsChosen cs o) ∧
      ∀ o, pattern.Occurs cs o → before <+: o.before → ∃ p ∈ found, p.before <+: o.before := by
  induction rest generalizing before with
  | nil =>
    refine ⟨none, rfl, by simp, fun o ho hprefix => ?_⟩
    rw [List.append_nil] at htext
    rw [htext] at hprefix
    exact absurd hprefix ho.not_prefix
  | cons c rest ih =>
    cases hhere : if endsInWord false before then none else f (c :: rest) with
    | some b =>
      obtain ⟨-, o, ho, rfl, rfl⟩ := h.exists_here htext hhere
      refine ⟨some o, ?_, by simpa using ho, fun p _ hprefix => ⟨o, rfl, hprefix⟩⟩
      rw [search.go, hhere]
      rfl
    | none =>
      have hnext : before ++ [c] ++ rest = cs := by simpa using htext
      obtain ⟨found, hgo, hchosen, hfirst⟩ := ih hnext
      refine ⟨found, ?_, hchosen, fun o ho hprefix => ?_⟩
      . rw [search.go, hhere, ← hgo, endsInWord_append]
        rfl
      . rcases ho.prefix_cases htext hprefix with heq | hlater
        . exact absurd heq (h.ne_before htext hhere ho)
        . exact hfirst o ho hlater

/-- A search finds the first occurrence, if there is one. -/
theorem IsReadBy.search (h : pattern.IsReadBy cs f view) :
    Description.search f cs = none ∧ (∀ o, ¬ pattern.Occurs cs o) ∨
      ∃ o, Description.search f cs = some (view o) ∧ pattern.IsFirst cs o := by
  obtain ⟨found, hgo, hchosen, hfirst⟩ := h.exists_search_go (List.nil_append cs)
  cases found with
  | none =>
    refine .inl ⟨hgo, fun o ho => ?_⟩
    obtain ⟨p, hp, -⟩ := hfirst o ho List.nil_prefix
    cases hp
  | some o =>
    refine .inr ⟨o, hgo, hchosen o rfl, fun p hp => ?_⟩
    obtain ⟨o', ho', hprefix⟩ := hfirst p hp List.nil_prefix
    cases ho'
    exact hprefix

end First

section All

structure AreAllFrom (pattern : Pattern) (cs before : List Char) (os : List Occurrence) : Prop where
  chosen : ∀ o ∈ os, pattern.IsChosen cs o
  later : ∀ o ∈ os, before <+: o.before
  apart : os.Pairwise fun o p => o.upTo <+: p.before
  covered : ∀ o, pattern.Occurs cs o → before <+: o.before → ∃ p ∈ os, o.BeginsWithin p

variable {before : List Char} {o : Occurrence} {os : List Occurrence}

theorem areAllFrom_nil_iff : pattern.AreAllFrom cs [] os ↔ pattern.AreAll cs os :=
  ⟨fun h => ⟨h.chosen, h.apart, fun o ho => h.covered o ho List.nil_prefix⟩,
    fun h => ⟨h.chosen, fun _ _ => List.nil_prefix, h.apart, fun o ho _ => h.covered o ho⟩⟩

theorem areAllFrom_end : pattern.AreAllFrom cs cs [] :=
  ⟨by simp, by simp, .nil, fun _ ho hprefix => absurd hprefix ho.not_prefix⟩

theorem AreAllFrom.skip {c : Char} {rest : List Char}
    (h : pattern.AreAllFrom cs (before ++ [c]) os) (htext : before ++ c :: rest = cs)
    (hnone : ∀ o, pattern.Occurs cs o → o.before ≠ before) : pattern.AreAllFrom cs before os := by
  refine ⟨h.chosen, fun o ho => ?_, h.apart, fun o ho hprefix => ?_⟩
  . exact (List.prefix_append before [c]).trans (h.later o ho)
  . rcases ho.prefix_cases htext hprefix with heq | hlater
    . exact absurd heq (hnone o ho)
    . exact h.covered o ho hlater

theorem AreAllFrom.cons (h : pattern.AreAllFrom cs o.upTo os) (ho : pattern.IsChosen cs o) :
    pattern.AreAllFrom cs o.before (o :: os) := by
  refine ⟨?_, ?_, List.pairwise_cons.2 ⟨h.later, h.apart⟩, fun p hp hprefix => ?_⟩
  . exact List.forall_mem_cons.2 ⟨ho, h.chosen⟩
  . refine List.forall_mem_cons.2 ⟨List.prefix_refl _, fun p hp => ?_⟩
    exact (List.prefix_append _ _).trans (h.later p hp)
  . by_cases hlater : o.upTo <+: p.before
    . obtain ⟨q, hq, hwithin⟩ := h.covered p hp hlater
      exact ⟨q, List.mem_cons_of_mem _ hq, hwithin⟩
    . exact ⟨o, List.mem_cons_self .., hprefix, hlater⟩

theorem AreAllFrom.tail (h : pattern.AreAllFrom cs before (o :: os)) :
    pattern.AreAllFrom cs o.upTo os := by
  obtain ⟨hchosen, hlater, hapart, hcovered⟩ := h
  rw [List.forall_mem_cons] at hchosen hlater
  rw [List.pairwise_cons] at hapart
  refine ⟨hchosen.2, hapart.1, hapart.2, fun p hp hprefix => ?_⟩
  have hbefore := (hlater.1.trans (List.prefix_append _ _)).trans hprefix
  obtain ⟨q, hq, hwithin⟩ := hcovered p hp hbefore
  rcases List.mem_cons.1 hq with rfl | hq
  . exact absurd hprefix hwithin.2
  . exact ⟨q, hq, hwithin⟩

theorem AreAllFrom.head_prefix (h : pattern.AreAllFrom cs before (o :: os)) {p : Occurrence}
    (hp : pattern.Occurs cs p) (hlater : before <+: p.before) : o.before <+: p.before := by
  obtain ⟨q, hq, hwithin⟩ := h.covered p hp hlater
  rcases List.mem_cons.1 hq with rfl | hq
  . exact hwithin.1
  . have hapart := List.rel_of_pairwise_cons h.apart hq
    exact ((List.prefix_append _ _).trans hapart).trans hwithin.1

variable {f : List Char → Option (List Char × List Char)}

theorem IsReadBy.exists_searchAll_go (h : pattern.IsReadBy cs f fun o => (o.span, o.after))
    {rest : List Char} (htext : before ++ rest = cs) :
    ∃ os : List Occurrence,
      searchAll.go f 0 (endsInWord false before) rest = os.map (·.span) ∧
      pattern.AreAllFrom cs before os := by
  -- The search goes on after an occurrence, so the induction is on how much is left.
  induction hlength : rest.length using Nat.strongRecOn generalizing before rest with
  | ind n ih =>
    cases rest with
    | nil =>
      rw [List.append_nil] at htext
      rw [htext]
      exact ⟨[], rfl, areAllFrom_end⟩
    | cons c rest =>
      cases hhere : if endsInWord false before then none else f (c :: rest) with
      | none =>
        have hnext : before ++ [c] ++ rest = cs := by simpa using htext
        obtain ⟨os, hgo, hall⟩ := ih _ (by simp [← hlength]) hnext rfl
        refine ⟨os, ?_, hall.skip htext fun o ho => h.ne_before htext hhere ho⟩
        rw [searchAll.go, hhere, ← hgo, endsInWord_append]
        rfl
      | some b =>
        obtain ⟨hstart, o, ho, rfl, rfl⟩ := h.exists_here htext hhere
        have hrest : c :: rest = o.lead ++ (o.span ++ o.close) ++ o.after := by
          rw [← List.append_cancel_left_eq o.before, htext, ← ho.occurs.upTo_append,
            Occurrence.upTo, List.append_assoc]
        have hne : o.lead ++ (o.span ++ o.close) ≠ [] := by simp [ho.occurs.span_ne_nil]
        have hshort : o.after.length < n := by
          have := List.length_pos_iff.2 hne
          rw [← hlength, hrest, List.length_append]
          omega
        obtain ⟨os, hgo, hall⟩ := ih _ hshort ho.occurs.upTo_append rfl
        have hends : endsInWord false o.upTo =
            endsInWord false (o.lead ++ (o.span ++ o.close)) := by
          rw [Occurrence.upTo, endsInWord_append false o.before, hstart]
        rw [hstart, if_neg (by simp), hrest] at hhere
        refine ⟨o :: os, ?_, hall.cons ho⟩
        rw [hrest, hstart, searchAll_go_found hne hhere, List.map_cons, ← hgo, hends]

/-- A search for all finds the occurrences from left to right that do not overlap. -/
theorem IsReadBy.exists_searchAll (h : pattern.IsReadBy cs f fun o => (o.span, o.after)) :
    ∃ os : List Occurrence, searchAll f cs = os.map (·.span) ∧ pattern.AreAll cs os := by
  obtain ⟨os, hgo, hall⟩ := h.exists_searchAll_go (List.nil_append cs)
  exact ⟨os, hgo, areAllFrom_nil_iff.1 hall⟩

end All

section Unique

/-- Whether what is written for a stop depends on the rest of a text only. -/
def IsExclusive (pattern : Pattern) : Prop :=
  ∀ {close after close' after'}, pattern.Closes close after → pattern.Closes close' after' →
    close ++ after = close' ++ after' → IsSpaced (close ++ after) → close = close'

theorem IsChosen.eq_of_before (hexclusive : pattern.IsExclusive) (hspaced : IsSpaced cs)
    {o p : Occurrence} (ho : pattern.IsChosen cs o) (hp : pattern.IsChosen cs p)
    (hbefore : o.before = p.before) : o = p := by
  have hlead : o.lead = p.lead := prefix_antisymm
    (hp.longest o ho.occurs hbefore) (ho.longest p hp.occurs hbefore.symm)
  have hspan : o.span = p.span := prefix_antisymm
    (ho.shortest p hp.occurs hbefore.symm hlead.symm) (hp.shortest o ho.occurs hbefore hlead)
  have hrest : o.close ++ o.after = p.close ++ p.after := by
    have heq := ho.occurs.text.trans hp.occurs.text.symm
    rwa [Occurrence.rest, Occurrence.rest, hbefore, hlead, hspan, List.append_cancel_left_eq,
      List.append_cancel_left_eq, List.append_cancel_left_eq] at heq
  have hclose : o.close = p.close := by
    apply hexclusive ho.occurs.close hp.occurs.close hrest
    apply (ho.occurs.isSpaced_rest hspaced).within
    exact (List.suffix_append _ _).isInfix.trans (List.suffix_append _ _).isInfix
  rw [hclose, List.append_cancel_left_eq] at hrest
  cases o
  cases p
  simp_all

theorem AreAllFrom.unique (hexclusive : pattern.IsExclusive) (hspaced : IsSpaced cs)
    {before : List Char} {os ps : List Occurrence} (h : pattern.AreAllFrom cs before os)
    (h' : pattern.AreAllFrom cs before ps) : os = ps := by
  induction os generalizing before ps with
  | nil =>
    cases ps with
    | nil => rfl
    | cons p ps =>
      obtain ⟨q, hq, -⟩ := h.covered p (h'.chosen p (by simp)).occurs (h'.later p (by simp))
      cases hq
  | cons o os ih =>
    have ho := h.chosen o (by simp)
    cases ps with
    | nil =>
      obtain ⟨q, hq, -⟩ := h'.covered o ho.occurs (h.later o (by simp))
      cases hq
    | cons p ps =>
      have hp := h'.chosen p (by simp)
      have hbefore : o.before = p.before := prefix_antisymm
        (h.head_prefix hp.occurs (h'.later p (by simp)))
        (h'.head_prefix ho.occurs (h.later o (by simp)))
      obtain rfl := ho.eq_of_before hexclusive hspaced hp hbefore
      rw [ih h.tail h'.tail]

theorem AreAll.unique (hexclusive : pattern.IsExclusive) (hspaced : IsSpaced cs)
    {os ps : List Occurrence} (h : pattern.AreAll cs os) (h' : pattern.AreAll cs ps) : os = ps :=
  (areAllFrom_nil_iff.2 h).unique hexclusive hspaced (areAllFrom_nil_iff.2 h')

end Unique

end Automation.Description.Pattern
