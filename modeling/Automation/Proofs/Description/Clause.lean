import Automation.Proofs.Description.Action
import Automation.Proofs.Description.Condition
import Automation.Proofs.Description.Trigger
import Automation.Proofs.Service

/-!
This module contains laws of the clauses of a description. Every clause is cut out of the normal
form of the description, so it names no service that stands before the one that the description
names.
-/

namespace Automation

open Text Description

inductive Clause.IsReadIn (text : String) : Clause → Prop
  | trigger {c : Clause} : trigger? text = some c → IsReadIn text c
  | action {c : Clause} (hasTrigger : Option Bool) :
      c ∈ actionsOf text hasTrigger → IsReadIn text c
  | condition {c : Clause} : c ∈ conditions text → IsReadIn text c

namespace Description

section Spans

theorem Pattern.Occurs.strip_span_infix {pattern : Pattern} {cs : List Char} {o : Occurrence}
    (ho : pattern.Occurs cs o) : strip o.span <:+: cs := by
  refine (stripWhere_within _ _).trans ?_
  rw [← ho.text, Occurrence.rest]
  exact ⟨o.before ++ o.lead, o.close ++ o.after, by simp⟩

theorem infix_of_triggerSpan? {cs span : List Char} (hspaced : IsSpaced cs)
    (h : triggerSpan? cs = some span) : span <:+: cs := by
  rw [triggerSpan?_eq] at h
  obtain ⟨pattern, hpattern, hfind⟩ := List.exists_of_findSome?_eq_some h
  rcases find?_form_cases hpattern hspaced with ⟨hnone, -⟩ | ⟨o, hsome, ho⟩
  . rw [hnone] at hfind
    cases hfind
  . rw [hsome, Option.some.injEq] at hfind
    rw [← hfind]
    exact ho.occurs.strip_span_infix

theorem conditionSpans_eq (cs : List Char) :
    conditionSpans cs =
      ([ifPattern, whenPattern, checkPattern].flatMap fun pattern =>
        searchAll pattern.read? cs).map strip := by
  rw [conditionSpans, ifCondition?_eq, whenCondition?_eq, checkedCondition?_eq]
  rfl

theorem infix_of_mem_conditionSpans {cs span : List Char} (hspaced : IsSpaced cs)
    (h : span ∈ conditionSpans cs) : span <:+: cs := by
  rw [conditionSpans_eq] at h
  obtain ⟨span, hspan, rfl⟩ := List.mem_map.1 h
  obtain ⟨pattern, -, hfound⟩ := List.mem_flatMap.1 hspan
  obtain ⟨os, hsearch, hall⟩ := (pattern.isReadBy_read? hspaced).exists_searchAll
  rw [hsearch] at hfound
  obtain ⟨o, ho, rfl⟩ := List.mem_map.1 hfound
  exact (hall.chosen o ho).occurs.strip_span_infix

end Spans

end Description

namespace Clause

variable {text : String} {c : Clause}

theorem IsReadIn.exists_span (h : c.IsReadIn text) :
    ∃ kind span, c = Clause.of kind span ∧ span <:+: normal text.toList := by
  have hspaced := isSpaced_normal text.toList
  cases h with
  | trigger h =>
    obtain ⟨span, hspan, rfl⟩ := Option.map_eq_some_iff.1 h
    exact ⟨.trigger, span, rfl, infix_of_triggerSpan? hspaced hspan⟩
  | action hasTrigger h =>
    obtain ⟨span, rfl, hwithin, -⟩ := exists_of_mem_actions h
    exact ⟨.action, span, rfl, hwithin⟩
  | condition h =>
    obtain ⟨span, hspan, rfl⟩ := List.mem_map.1 h
    exact ⟨.condition, span, rfl, infix_of_mem_conditionSpans hspaced hspan⟩

theorem service_of (kind : Kind) (span : List Char) :
    (Clause.of kind span).service = Service.detect? (String.ofList span) := by
  rw [Clause.of]

theorem IsReadIn.place_le (h : c.IsReadIn text) :
    Service.place (Service.detect? (Description.normalize text)) ≤ Service.place c.service := by
  obtain ⟨kind, span, rfl, hwithin⟩ := h.exists_span
  rw [service_of]
  apply Service.place_detect?_le
  -- What lies within a normal form is in lower case already, so the search lowers nothing more.
  rw [toLowerCase, toLowerCase, Description.normalize, String.toList_ofList, String.toList_ofList,
    String.toList_ofList, String.toList_ofList, lower_of_within hwithin,
    lower_of_within (List.infix_refl _)]
  exact hwithin

end Clause

namespace Service

/-- Two texts that a comma joins name the first of their services, and a description names none that
stands behind the service of one of its clauses. -/
theorem detect?_first :
    (∀ a b : String, detect? (a ++ "," ++ b) = first (detect? a) (detect? b)) ∧
      ∀ (text : String) (c : Clause), c.IsReadIn text →
        place (detect? (Description.normalize text)) ≤ place c.service :=
  ⟨detect?_joined, fun _ _ h => h.place_le⟩

def cardNotice : String := "MAIL ΑΣ, tag a card"

def cardAction : Clause where
  kind := .action
  text := "tag a card"
  service := some .trello

theorem detect?_first_cardNotice :
    detect? ("card ΑΣ" ++ "," ++ "ΣMAIL") = first (some .trello) (some .email) ∧
      cardAction.IsReadIn cardNotice ∧
      place (detect? (Description.normalize cardNotice)) ≤ place (some .trello) := by
  have hread : cardAction.IsReadIn cardNotice :=
    .action (some false) (by decide +kernel)
  have hcard : detect? "card ΑΣ" = some .trello := by decide +kernel
  have hmail : detect? "ΣMAIL" = some .email := by decide +kernel
  refine ⟨?_, hread, detect?_first.2 cardNotice cardAction hread⟩
  rw [detect?_first.1, hcard, hmail]

end Service

end Automation
