import Automation.Proofs.Description.Normal
import Automation.Proofs.Outcome

/-!
This module contains what the parts of a description are read in. Each of them reads the same in a
text and in its normal form, so a description says what is read in its text part by part.
-/

namespace Automation.Description

theorem normalize_normalize (text : String) : normalize (normalize text) = normalize text := by
  rw [normalize, normal_normalize, normalize]

section Parts

variable (text : String)

theorem trigger?_normalize : trigger? (normalize text) = trigger? text := by
  rw [trigger?, normal_normalize, trigger?]

theorem actions_normalize (hasTrigger : Bool) :
    actions (normalize text) hasTrigger = actions text hasTrigger := by
  rw [actions, normal_normalize, actions]

theorem conditions_normalize : conditions (normalize text) = conditions text := by
  rw [conditions, normal_normalize, conditions]

theorem schedule_normalize : schedule (normalize text) = schedule text := by
  rw [schedule, normal_normalize, schedule]

theorem actionsOf_none : actionsOf text none = actions text (trigger? text).isSome := by
  rw [actionsOf, Option.getD_none, trigger?_normalize]

end Parts

def parts (text : String) (schedule : Option Schedule) : Extraction where
  trigger := trigger? text
  actions := actionsOf text none
  conditions := conditions text
  schedule := schedule
  isBlank := false

theorem extract_of_not_isBlank {text : String} (h : isBlank text = false) :
    extract text = (schedule text).map (parts text) := by
  unfold extract
  rw [h, if_neg Bool.false_ne_true]
  dsimp only
  rw [trigger?_normalize, actions_normalize, conditions_normalize, schedule_normalize,
    ← actionsOf_none]
  cases schedule text <;> rfl

theorem parts_eq_iff {text : String} {found : Option Schedule} {e : Extraction} :
    parts text found = e ↔ e.trigger = trigger? text ∧ e.actions = actionsOf text none ∧
      e.conditions = conditions text ∧ found = e.schedule ∧ e.isBlank = false := by
  constructor
  . rintro rfl
    simp only [parts, and_self]
  . rintro ⟨htrigger, hactions, hconditions, hschedule, hblank⟩
    rw [parts, ← htrigger, ← hactions, ← hconditions, hschedule, ← hblank]

structure SaysParts (text : String) : Prop where
  said : ∀ e, extract text = .ok e ↔
    e.trigger = trigger? text ∧ e.actions = actionsOf text none ∧
      e.conditions = conditions text ∧ schedule text = .ok e.schedule ∧ e.isBlank = false
  fault : ∀ f, extract text = .error f ↔ schedule text = .error f

theorem saysParts_of_not_isBlank {text : String} (h : isBlank text = false) : SaysParts text := by
  have hextract := extract_of_not_isBlank h
  constructor
  . intro e
    rw [hextract]
    cases schedule text with
    | ok found => simp only [Except.map, Except.ok.injEq, parts_eq_iff]
    | error f => simp only [Except.map, reduceCtorEq, false_and, and_false]
  . intro f
    rw [hextract]
    cases schedule text with
    | ok found => simp only [Except.map, reduceCtorEq]
    | error g => simp only [Except.map, Except.error.injEq]

/-- A normal form is its own, and a text with a word character says what is read in it part by
part. -/
theorem extract_saysParts {text : String} (h : ∃ c ∈ text.toList, Text.isWord c = true) :
    (∀ t, normalize (normalize t) = normalize t) ∧ SaysParts text := by
  refine ⟨normalize_normalize, saysParts_of_not_isBlank ?_⟩
  rw [isBlank, Bool.not_eq_false', List.any_eq_true]
  exact h

/-- The sigma that ends a word differs from the one within it, and a dotted capital becomes two
characters. -/
def sigmaText : String := "When  ΣΑΣ\tcomes, MAİL it,\nif ΣΑΣ  is 5 then  call every 2 Days"

theorem extract_saysParts_of_sigmaText :
    (∃ c ∈ sigmaText.toList, Text.isWord c = true) ∧
    normalize sigmaText = "when σας comes, mai̇l it, if σας is 5 then call every 2 days" ∧
    SaysParts sigmaText := by
  have hword : ∃ c ∈ sigmaText.toList, Text.isWord c = true := ⟨'W', by decide, by decide +kernel⟩
  exact ⟨hword, by decide +kernel, (extract_saysParts hword).2⟩

end Automation.Description
