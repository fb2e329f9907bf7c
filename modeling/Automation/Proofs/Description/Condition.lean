import Automation.Proofs.Description.Search

/-!
This module contains the conditions of a description, told by the three patterns that announce one
and not by the searches for them: each pattern gives its occurrences from left to right.
-/

namespace Automation.Description

open Text

def ifPattern : Pattern where
  leads := { ways := [[["if"]]] }
  stops := [.word "then"]

def whenPattern : Pattern where
  leads := .when
  stops := [.word "is", .word "equals", .word "contains"]

def checkPattern : Pattern where
  leads := { ways := [[["check", "checks"], ["if", "whether"]]] }
  stops := [.finish]

section Reading

theorem ifCondition?_eq : ifCondition? = ifPattern.read? := by
  have hleads : ifPattern.leadTexts = ["if ".toList] := by decide
  have hstop : ifPattern.stop? = afterWord? " then".toList := by
    funext rest
    exact List.findSome?_singleton ..
  funext cs
  rw [Pattern.read?, hleads, hstop, List.findSome?_singleton, ifCondition?]

theorem whenCondition?_eq : whenCondition? = whenPattern.read? := by
  have hleads : whenPattern.leadTexts = ["when ".toList] := by decide
  have hverbs : conditionVerbs = ["is", "equals", "contains"].map (' ' :: String.toList ·) := by
    decide
  have hstop : whenPattern.stop? = afterAnyWord? conditionVerbs := by
    funext rest
    rw [afterAnyWord?, hverbs, List.findSome?_map]
    rfl
  funext cs
  rw [Pattern.read?, hleads, hstop, List.findSome?_singleton, whenCondition?]

theorem shortest_checkPattern {cs : List Char} (hne : cs ≠ []) :
    shortest checkPattern.stop? cs = some (cs, []) := by
  have hnone : ∀ v, v <:+ cs → v ≠ [] → checkPattern.stop? (v ++ []) = none := by
    intro v _ hv
    obtain ⟨c, v, rfl⟩ := List.exists_cons_of_ne_nil hv
    rfl
  have hshortest := shortest_append hne hnone rfl
  rwa [List.append_nil] at hshortest

theorem checkedCondition?_eq : checkedCondition? = checkPattern.read? := by
  have hleads : checkPattern.leadTexts =
      ["check if ", "check whether ", "checks if ", "checks whether "].map String.toList := by
    decide
  funext cs
  rw [Pattern.read?, hleads, List.findSome?_map, checkedCondition?]
  congr 1
  funext lead
  rw [Function.comp_apply]
  cases after? lead.toList cs with
  | none => rfl
  | some rest =>
    cases rest with
    | nil => rfl
    | cons c rest => exact (shortest_checkPattern (List.cons_ne_nil c rest)).symm

end Reading

section Condition

variable {pattern : Pattern} {cs : List Char} {o : Occurrence}

/-- A span that a blank or the end of a text comes after does not end with a blank. -/
theorem getLast?_span (ho : pattern.Occurs cs o) (hspaced : IsSpaced cs)
    (hlast : ∀ c ∈ cs.getLast?, Text.isBlank c = false) (hcomma : .comma ∉ pattern.stops) :
    ∀ c ∈ o.span.getLast?, Text.isBlank c = false := by
  intro c hc
  obtain ⟨span, hspan⟩ := List.getLast?_eq_some_iff.1 hc
  rw [← Bool.not_eq_true]
  intro hblank
  have hrest := ho.isSpaced_rest hspaced
  obtain ⟨stop, hstop, hclose⟩ := ho.close
  cases stop with
  | comma => exact hcomma hstop
  | word w =>
    obtain ⟨blanks, hblanks, hclose, -⟩ := hclose
    obtain ⟨b, blanks, rfl⟩ := List.exists_cons_of_ne_nil hblanks.ne_nil
    rw [Occurrence.rest, hspan, hclose] at hrest
    obtain rfl := hrest.eq_space c (by simp) hblank
    obtain rfl := hrest.eq_space b (by simp) (hblanks.isBlank b (by simp))
    exact hrest.alone ⟨o.lead ++ span, blanks ++ (w.toList ++ o.after), by simp⟩
  | finish =>
    obtain ⟨hclose, hafter⟩ := hclose
    have hends : c ∈ cs.getLast? := by
      rw [← ho.text, Occurrence.rest, hspan, hclose, hafter]
      simp
    rw [hlast c hends] at hblank
    cases hblank

theorem strip_span (ho : pattern.Occurs cs o) (hspaced : IsSpaced cs)
    (hlast : ∀ c ∈ cs.getLast?, Text.isBlank c = false) (hcomma : .comma ∉ pattern.stops) :
    strip o.span = o.span :=
  stripWhere_eq_self (ho.head?_span hspaced) (getLast?_span ho hspaced hlast hcomma)

theorem after_checkPattern (ho : checkPattern.Occurs cs o) : o.close = [] ∧ o.after = [] := by
  obtain ⟨stop, hstop, hclose⟩ := ho.close
  obtain rfl := List.mem_singleton.1 hstop
  exact hclose

/-- What is to be checked runs to the end of a text, so there is no second occurrence. -/
theorem areAll_checkPattern {os : List Occurrence} (h : checkPattern.AreAll cs os) :
    os = [] ∨ ∃ o, os = [o] ∧ checkPattern.IsFirst cs o := by
  have hnone : ∀ o ∈ os, ∀ p ∈ os, ¬ o.upTo <+: p.before := by
    intro o ho p hp
    have htext := (h.chosen o ho).occurs.upTo_append
    rw [(after_checkPattern (h.chosen o ho).occurs).2, List.append_nil] at htext
    rw [htext]
    exact (h.chosen p hp).occurs.not_prefix
  match os with
  | [] => exact .inl rfl
  | [o] =>
    refine .inr ⟨o, rfl, h.chosen o (by simp), fun p hp => ?_⟩
    obtain ⟨q, hq, hwithin⟩ := h.covered p hp
    rw [List.mem_singleton.1 hq] at hwithin
    exact hwithin.1
  | o :: p :: os =>
    have hapart := List.rel_of_pairwise_cons h.apart (List.mem_cons_self ..)
    exact absurd hapart (hnone o (by simp) p (by simp))

end Condition

section Exclusive

theorem isWord_head_of_startsInWord {cs : List Char} (h : startsInWord cs = false) :
    ∀ c ∈ cs.head?, Text.isWord c = false := by
  cases cs with
  | nil => exact fun _ hc => nomatch hc
  | cons c cs =>
    rintro _ ⟨⟩
    exact h

theorem IsPlain.eq_of_append {w w' after after' : List Char} (hw : IsPlain w) (hw' : IsPlain w')
    (heq : w ++ after = w' ++ after') (hafter : startsInWord after = false)
    (hafter' : startsInWord after' = false) : w = w' := by
  exact (append_inj_of_border hw.isWord hw'.isWord (isWord_head_of_startsInWord hafter)
    (isWord_head_of_startsInWord hafter') heq).1

theorem isExclusive_of_words {pattern : Pattern}
    (h : ∀ stop ∈ pattern.stops, ∃ w : String, stop = .word w ∧ IsPlain w.toList) :
    pattern.IsExclusive := by
  rintro close after close' after' ⟨stop, hstop, hclose⟩ ⟨stop', hstop', hclose'⟩ heq hspaced
  obtain ⟨w, rfl, hw⟩ := h stop hstop
  obtain ⟨w', rfl, hw'⟩ := h stop' hstop'
  obtain ⟨blanks, hblanks, rfl, hafter⟩ := hclose
  obtain ⟨blanks', hblanks', rfl, hafter'⟩ := hclose'
  have hspaced' := hspaced
  rw [heq] at hspaced'
  rw [List.append_assoc] at hspaced hspaced' heq
  obtain rfl := eq_space_of_isBlankRun (u := []) hspaced hblanks
  obtain rfl := eq_space_of_isBlankRun (u := []) hspaced' hblanks'
  rw [List.append_assoc, List.append_cancel_left_eq] at heq
  rw [hw.eq_of_append hw' heq hafter hafter']

theorem isExclusive_ifPattern : ifPattern.IsExclusive := by
  apply isExclusive_of_words
  simp only [ifPattern, List.forall_mem_singleton]
  exact ⟨"then", rfl, isPlain_of_all (by decide) (by decide +kernel)⟩

theorem isExclusive_whenPattern : whenPattern.IsExclusive := by
  apply isExclusive_of_words
  simp only [whenPattern, List.forall_mem_cons]
  refine ⟨?_, ?_, ?_, by simp⟩
  . exact ⟨"is", rfl, isPlain_of_all (by decide) (by decide +kernel)⟩
  . exact ⟨"equals", rfl, isPlain_of_all (by decide) (by decide +kernel)⟩
  . exact ⟨"contains", rfl, isPlain_of_all (by decide) (by decide +kernel)⟩

theorem isExclusive_checkPattern : checkPattern.IsExclusive := by
  rintro close after close' after' ⟨stop, hstop, hclose⟩ ⟨stop', hstop', hclose'⟩ - -
  obtain rfl := List.mem_singleton.1 hstop
  obtain rfl := List.mem_singleton.1 hstop'
  rw [hclose.1, hclose'.1]

end Exclusive

theorem exists_areAll_iff {pattern : Pattern} (hexclusive : pattern.IsExclusive) {cs : List Char}
    (hspaced : IsSpaced cs) :
    ∃ found, searchAll pattern.read? cs = found.map (·.span) ∧
      ∀ os, pattern.AreAll cs os ↔ os = found := by
  obtain ⟨found, hfound, hall⟩ := (pattern.isReadBy_read? hspaced).exists_searchAll
  refine ⟨found, hfound, fun os => ⟨fun h => h.unique hexclusive hspaced hall, ?_⟩⟩
  rintro rfl
  exact hall

theorem exists_occurs_of_mem {cs : List Char} {ifs whens checks : List Occurrence}
    (hifs : ifPattern.AreAll cs ifs) (hwhens : whenPattern.AreAll cs whens)
    (hchecks : checkPattern.AreAll cs checks) {o : Occurrence} (ho : o ∈ ifs ++ whens ++ checks) :
    ∃ pattern : Pattern, pattern.Occurs cs o ∧ .comma ∉ pattern.stops := by
  rw [List.mem_append, List.mem_append] at ho
  rcases ho with (ho | ho) | ho
  . exact ⟨_, (hifs.chosen o ho).occurs, by decide⟩
  . exact ⟨_, (hwhens.chosen o ho).occurs, by decide⟩
  . exact ⟨_, (hchecks.chosen o ho).occurs, by decide⟩

theorem exists_conditions_eq (text : String) :
    ∃ ifs whens checks : List Occurrence,
      (∀ os, ifPattern.AreAll (normal text.toList) os ↔ os = ifs) ∧
      (∀ os, whenPattern.AreAll (normal text.toList) os ↔ os = whens) ∧
      (∀ os, checkPattern.AreAll (normal text.toList) os ↔ os = checks) ∧
      conditions text = (ifs ++ whens ++ checks).map fun o =>
        { kind := .condition
          text := String.ofList o.span
          service := Service.detect? (String.ofList o.span) } := by
  have hspaced := isSpaced_normal text.toList
  obtain ⟨ifs, hfoundIfs, hifs⟩ := exists_areAll_iff isExclusive_ifPattern hspaced
  obtain ⟨whens, hfoundWhens, hwhens⟩ := exists_areAll_iff isExclusive_whenPattern hspaced
  obtain ⟨checks, hfoundChecks, hchecks⟩ := exists_areAll_iff isExclusive_checkPattern hspaced
  refine ⟨ifs, whens, checks, hifs, hwhens, hchecks, ?_⟩
  rw [conditions, conditionSpans, ifCondition?_eq, whenCondition?_eq, checkedCondition?_eq]
  simp only [List.flatMap_cons, List.flatMap_nil, List.append_nil, hfoundIfs, hfoundWhens,
    hfoundChecks, ← List.map_append, List.map_map, ← List.append_assoc]
  apply List.map_congr_left
  intro o ho
  obtain ⟨pattern, hpattern, hcomma⟩ :=
    exists_occurs_of_mem ((hifs ifs).2 rfl) ((hwhens whens).2 rfl) ((hchecks checks).2 rfl) ho
  have hstrip := strip_span hpattern hspaced (fun _ => getLast?_normal) hcomma
  rw [Function.comp_apply, Function.comp_apply, hstrip]
  rfl

/-- The conditions of a description are the spans that each pattern announces in it. -/
theorem exists_spans_conditions (text : String) :
    ∃ ifs whens checks : List Occurrence,
      (∀ os, ifPattern.AreAll (normal text.toList) os ↔ os = ifs) ∧
      (∀ os, whenPattern.AreAll (normal text.toList) os ↔ os = whens) ∧
      (∀ os, checkPattern.AreAll (normal text.toList) os ↔ os = checks) ∧
      (checks = [] ∨ ∃ o, checks = [o] ∧ checkPattern.IsFirst (normal text.toList) o ∧
        o.close = [] ∧ o.after = []) ∧
      (∀ o ∈ ifs ++ whens ++ checks, o.span ≠ [] ∧
        (∀ c ∈ o.span.head?, Text.isBlank c = false) ∧
        ∀ c ∈ o.span.getLast?, Text.isBlank c = false) ∧
      conditions text = (ifs ++ whens ++ checks).map fun o =>
        { kind := .condition
          text := String.ofList o.span
          service := Service.detect? (String.ofList o.span) } := by
  obtain ⟨ifs, whens, checks, hifs, hwhens, hchecks, hconditions⟩ := exists_conditions_eq text
  refine ⟨ifs, whens, checks, hifs, hwhens, hchecks, ?_, fun o ho => ?_, hconditions⟩
  . rcases areAll_checkPattern ((hchecks checks).2 rfl) with hnil | ⟨o, hone, ho⟩
    . exact .inl hnil
    . exact .inr ⟨o, hone, ho, after_checkPattern ho.occurs⟩
  . have hspaced := isSpaced_normal text.toList
    obtain ⟨pattern, hpattern, hcomma⟩ :=
      exists_occurs_of_mem ((hifs ifs).2 rfl) ((hwhens whens).2 rfl) ((hchecks checks).2 rfl) ho
    exact ⟨hpattern.span_ne_nil, hpattern.head?_span hspaced,
      getLast?_span hpattern hspaced (fun _ => getLast?_normal) hcomma⟩

example : (conditions "When a is 1 if b then c. If d check if e").map (·.text) =
    ["b", "a", "e"] := by decide +kernel

end Automation.Description
