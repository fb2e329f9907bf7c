import Automation.Proofs.Description.Search

/-!
This module contains the trigger of a description, told by the patterns that announce one and not by
the search for it: the first pattern that occurs is taken where it occurs first.
-/

namespace Automation.Description

open Text

def triggerPatterns : List Pattern := [
  -- All but the first may stop at the end of a text.
  { leads := .when
    stops := [.comma, .word "then"] },
  { leads := { ways := [[["trigger", "triggered"], ["by", "on", "when"]]] }
    stops := [.finish, .comma, .word "then"] },
  { leads := { ways := [[["start", "starts"], ["with", "when", "on"]]] }
    stops := [.finish, .comma, .word "then"] },
  { leads := { ways := [[["watch", "watches"], ["for"]], [["watch", "watches"]]] }
    stops := [.finish, .comma, .word "then"] },
  { leads := { ways := [[["monitor", "monitors"]]] }
    stops := [.finish, .comma, .word "then"] }
]

/-- Whether a text is the span of an occurrence without the blank that may stand before a stop. -/
structure IsTriggerText (pattern : Pattern) (cs : List Char) (o : Occurrence) (text : List Char) :
    Prop where
  ne_nil : text ≠ []
  head : ∀ c ∈ text.head?, Text.isBlank c = false
  last : ∀ c ∈ text.getLast?, Text.isBlank c = false
  span : ∃ gap, o.span = text ++ gap ∧ ∀ c ∈ gap, Text.isBlank c = true
  no_comma : ',' ∉ text.tail
  no_then : ∀ before blank rest, text = before ++ blank :: rest → Text.isBlank blank = true →
    ¬ StartsWithWord "then".toList rest
  followed : ∃ gap rest, o.before ++ (o.lead ++ (text ++ (gap ++ rest))) = cs ∧
    (∀ c ∈ gap, Text.isBlank c = true) ∧
    (rest.head? = some ',' ∨ StartsWithWord "then".toList rest ∨
      rest = [] ∧ .finish ∈ pattern.stops)

section Reading

theorem clauseEnd?_eq (cs : List Char) :
    clauseEnd? cs = [Stop.comma, .word "then"].findSome? (·.read? cs) := by
  have hword : (' ' :: "then".toList) = " then".toList := rfl
  simp only [List.findSome?_cons, List.findSome?_nil, Stop.read?, hword]
  unfold clauseEnd?
  split
  . rename_i rest
    rw [after?_eq_some_iff.2 (List.singleton_append)]
  . rename_i hcomma
    rw [after?_eq_none]
    . cases afterWord? " then".toList cs <;> rfl
    . rintro ⟨rest, rfl⟩
      exact hcomma rest rfl

theorem clauseEndOrEnd?_eq (cs : List Char) :
    clauseEndOrEnd? cs = [Stop.finish, .comma, .word "then"].findSome? (·.read? cs) := by
  cases cs with
  | nil => rfl
  | cons c cs =>
    rw [List.findSome?_cons]
    exact clauseEnd?_eq (c :: cs)

def Pattern.form (pattern : Pattern) : TriggerForm :=
  { leads := pattern.leadTexts, mayEnd := .finish ∈ pattern.stops }

theorem triggerForms_eq : triggerForms = triggerPatterns.map Pattern.form := by
  decide

theorem stops_triggerPatterns : ∀ pattern ∈ triggerPatterns, pattern.stops =
    if pattern.form.mayEnd then [.finish, .comma, .word "then"] else [.comma, .word "then"] := by
  decide

theorem find?_form {pattern : Pattern} (h : pattern ∈ triggerPatterns) (cs : List Char) :
    pattern.form.find? cs =
      (search (fun rest => (pattern.read? rest).map (·.1)) cs).map Text.strip := by
  have hstop : pattern.form.stop? = pattern.stop? := by
    funext rest
    rw [TriggerForm.stop?, Pattern.stop?, stops_triggerPatterns pattern h]
    split
    . exact clauseEndOrEnd?_eq rest
    . exact clauseEnd?_eq rest
  have hat : pattern.form.at? = fun rest => (pattern.read? rest).map (·.1) := by
    funext rest
    rw [TriggerForm.at?, Pattern.read?, List.map_findSome?, hstop]
    congr 1
    funext lead
    exact (Option.map_bind ..).symm
  rw [TriggerForm.find?, hat]

theorem triggerSpan?_eq (cs : List Char) :
    triggerSpan? cs = triggerPatterns.findSome? fun pattern => pattern.form.find? cs := by
  rw [triggerSpan?, triggerForms_eq, List.findSome?_map]
  rfl

end Reading

section Trigger

variable {pattern : Pattern} {cs : List Char} {o : Occurrence}

theorem find?_form_cases (h : pattern ∈ triggerPatterns) (hspaced : IsSpaced cs) :
    pattern.form.find? cs = none ∧ (∀ o, ¬ pattern.Occurs cs o) ∨
      ∃ o, pattern.form.find? cs = some (strip o.span) ∧ pattern.IsFirst cs o := by
  have hread := (pattern.isReadBy_read? hspaced).map (·.1)
  rcases hread.search with ⟨hnone, hno⟩ | ⟨o, hfound, ho⟩
  . refine .inl ⟨?_, hno⟩
    rw [find?_form h, hnone]
    rfl
  . refine .inr ⟨o, ?_, ho⟩
    rw [find?_form h, hfound]
    rfl

theorem closes_comma (h : pattern ∈ triggerPatterns) (after : List Char) :
    pattern.Closes [','] after := by
  have hcomma : ∀ pattern ∈ triggerPatterns, .comma ∈ pattern.stops := by decide
  exact ⟨.comma, hcomma pattern h, rfl⟩

theorem closes_then (h : pattern ∈ triggerPatterns) {blank : Char} {after : List Char}
    (hblank : Text.isBlank blank = true) (hafter : startsInWord after = false) :
    pattern.Closes (blank :: "then".toList) after := by
  have hthen : ∀ pattern ∈ triggerPatterns, .word "then" ∈ pattern.stops := by decide
  exact ⟨.word "then", hthen pattern h, [blank], ⟨by simp, by simpa using hblank⟩, rfl, hafter⟩

theorem startsInWord_append {u v : List Char} (hu : startsInWord u = false)
    (hv : startsInWord v = false) : startsInWord (u ++ v) = false := by
  cases u with
  | nil => exact hv
  | cons c u => exact hu

theorem exists_followed (h : pattern ∈ triggerPatterns) (ho : pattern.Occurs cs o) :
    ∃ gap rest, o.close ++ o.after = gap ++ rest ∧ (∀ c ∈ gap, Text.isBlank c = true) ∧
      (rest.head? = some ',' ∨ StartsWithWord "then".toList rest ∨
        rest = [] ∧ .finish ∈ pattern.stops) := by
  have hstops : ∀ pattern ∈ triggerPatterns, ∀ w, .word w ∈ pattern.stops → w = "then" := by
    simp [triggerPatterns]
  obtain ⟨stop, hstop, hclose⟩ := ho.close
  cases stop with
  | comma =>
    obtain hclose : o.close = [','] := hclose
    exact ⟨[], ',' :: o.after, by simp [hclose], by simp, .inl rfl⟩
  | word w =>
    obtain rfl := hstops pattern h w hstop
    obtain ⟨blanks, hblanks, hclose, hafter⟩ := hclose
    refine ⟨blanks, "then".toList ++ o.after, ?_, hblanks.isBlank, .inr (.inl ⟨_, rfl, hafter⟩)⟩
    rw [hclose, List.append_assoc]
  | finish =>
    obtain ⟨hclose, hafter⟩ := hclose
    exact ⟨[], [], by rw [hclose, hafter], by simp, .inr (.inr ⟨rfl, hstop⟩)⟩

theorem isTriggerText_of_isChosen (h : pattern ∈ triggerPatterns) (ho : pattern.IsChosen cs o)
    (hspaced : IsSpaced cs) {text gap : List Char} (hspan : o.span = text ++ gap)
    (hgap : ∀ c ∈ gap, Text.isBlank c = true)
    (hlast : ∀ c ∈ text.getLast?, Text.isBlank c = false) : IsTriggerText pattern cs o text := by
  obtain ⟨blanks, rest, hclose, hblanks, hfollowed⟩ := exists_followed h ho.occurs
  have hafter : startsInWord (gap ++ (o.close ++ o.after)) = false := by
    refine startsInWord_append ?_ ho.occurs.close.startsInWord_eq
    cases gap with
    | nil => rfl
    | cons c gap => exact isWord_of_isBlank (hgap c (List.mem_cons_self ..))
  have hfirst := ho.occurs.head?_span hspaced
  obtain ⟨c, text, rfl⟩ : ∃ c t, text = c :: t := by
    apply List.exists_cons_of_ne_nil
    rintro rfl
    obtain ⟨c, span, heq⟩ := List.exists_cons_of_ne_nil ho.occurs.span_ne_nil
    have hblank := hgap c (by rw [← List.nil_append gap, ← hspan, heq]; exact List.mem_cons_self ..)
    rw [hfirst c (by rw [heq]; rfl)] at hblank
    cases hblank
  have hhead : Text.isBlank c = false := hfirst c (by rw [hspan]; rfl)
  refine ⟨by simp, by simpa using hhead, hlast, ⟨gap, hspan, hgap⟩, ?_, ?_, ?_⟩
  . intro hcomma
    obtain ⟨u, v, rfl⟩ := List.append_of_mem hcomma
    have hcut : o.span = (c :: u) ++ (',' :: v ++ gap) := by simp [hspan]
    exact ho.not_closes hcut (by simp) (by simp) (by simp)
      (closes_comma h (v ++ (gap ++ (o.close ++ o.after))))
  . rintro before blank rest htext hblank ⟨after, rfl, hword⟩
    have hbefore : before ≠ [] := by
      rintro rfl
      cases htext
      rw [hhead] at hblank
      cases hblank
    have hcut : o.span = before ++ (blank :: "then".toList ++ (after ++ gap)) := by
      simp [hspan, htext]
    apply ho.not_closes hcut hbefore (by simp) _
      (closes_then h hblank (startsInWord_append hword hafter))
    simp
  . refine ⟨gap ++ blanks, rest, ?_, ?_, hfollowed⟩
    . rw [← ho.occurs.text, Occurrence.rest, hclose, hspan]
      simp
    . intro d hd
      rcases List.mem_append.1 hd with hd | hd
      . exact hgap d hd
      . exact hblanks d hd

theorem isTriggerText_strip (h : pattern ∈ triggerPatterns) (ho : pattern.IsChosen cs o)
    (hspaced : IsSpaced cs) : IsTriggerText pattern cs o (strip o.span) := by
  obtain ⟨gap, heq, hgap⟩ := exists_append_stripWhere Text.isBlank o.span
  rw [dropWhile_eq_self (ho.occurs.head?_span hspaced)] at heq
  exact isTriggerText_of_isChosen h ho hspaced heq hgap fun _ hc => getLast?_stripWhere hc

end Trigger

/-- The trigger of a description is that of the first pattern that occurs, where it occurs first. -/
theorem exists_pattern_trigger? (text : String) :
    (trigger? text = none ↔
      ∀ pattern ∈ triggerPatterns, ∀ o, ¬ pattern.Occurs (normal text.toList) o) ∧
    (trigger? text = none ∨ ∃ earlier pattern later o span,
      triggerPatterns = earlier ++ pattern :: later ∧
      (∀ p ∈ earlier, ∀ o', ¬ p.Occurs (normal text.toList) o') ∧
      pattern.IsFirst (normal text.toList) o ∧
      IsTriggerText pattern (normal text.toList) o span ∧
      trigger? text = some {
        kind := .trigger
        text := String.ofList span
        service := Service.detect? (String.ofList span) }) := by
  have hspaced := isSpaced_normal text.toList
  have hnone : ∀ {pattern}, pattern ∈ triggerPatterns →
      (pattern.form.find? (normal text.toList) = none ↔
        ∀ o, ¬ pattern.Occurs (normal text.toList) o) := by
    intro pattern hpattern
    rcases find?_form_cases hpattern hspaced with ⟨hfind, hno⟩ | ⟨o, hfind, ho⟩
    . simp [hfind, hno]
    . rw [hfind]
      exact iff_of_false (by simp) fun hno => hno o ho.occurs
  constructor
  . rw [trigger?, Option.map_eq_none_iff, triggerSpan?_eq, List.findSome?_eq_none_iff]
    exact forall₂_congr fun pattern hpattern => hnone hpattern
  . cases hspan : triggerSpan? (normal text.toList) with
    | none => exact .inl (by rw [trigger?, hspan]; rfl)
    | some span =>
      have htrigger : trigger? text = some (Clause.of .trigger span) := by
        rw [trigger?, hspan]
        rfl
      right
      rw [triggerSpan?_eq, List.findSome?_eq_some_iff] at hspan
      obtain ⟨earlier, pattern, later, hpatterns, hfind, hearlier⟩ := hspan
      have hmem : pattern ∈ triggerPatterns := by simp [hpatterns]
      rcases find?_form_cases hmem hspaced with ⟨hfind', -⟩ | ⟨o, hfind', ho⟩
      . rw [hfind'] at hfind
        cases hfind
      . rw [hfind', Option.some.injEq] at hfind
        refine ⟨earlier, pattern, later, o, span, hpatterns, ?_, ho, ?_, htrigger⟩
        . intro p hp
          exact (hnone (by simp [hpatterns, hp])).1 (hearlier p hp)
        . rw [← hfind]
          exact isTriggerText_strip hmem ho.toIsChosen hspaced

example : (trigger? "Monitor the page when a card moves , then tell us").map (·.text) =
    some "a card moves" := by decide +kernel

end Automation.Description
