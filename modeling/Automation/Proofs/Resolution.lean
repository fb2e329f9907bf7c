import Automation.Blueprint.Report

/-!
This module contains laws of the resolution of single clauses: which module is taken, when it stands
in for another one, and that the log names it exactly then.
-/

namespace Automation

theorem Service.trigger?_eq_none {s : Service} {text : String} (h : s.trigger? text = none)
    (other : String) : s.trigger? other = none := by
  cases s
  all_goals
    first
    | rfl
    | cases h

namespace Resolution

theorem trigger_eq (catalog : Catalog) (clause : Option String) :
    trigger catalog clause =
      let text := toLowerCase (clause.getD "")
      let service := if text.isEmpty then none else Service.detect? text
      match service.bind (·.trigger? text) with
      | some choice => of catalog choice service false
      | none => of catalog Choice.fallbackTrigger service true := by
  unfold trigger Catalog.resolveTrigger
  dsimp only
  generalize (if (toLowerCase (clause.getD "")).isEmpty then none
    else Service.detect? (toLowerCase (clause.getD ""))) = service
  cases service.bind (·.trigger? (toLowerCase (clause.getD ""))) with
  | some choice => rfl
  | none => rfl

theorem action_eq (catalog : Catalog) (sleepSeconds : Json) (clause : String) :
    action catalog sleepSeconds clause =
      let text := toLowerCase clause
      match Service.detect? text with
      | some service => of catalog (service.action text) (some service) false
      | none => of catalog (Choice.fallbackAction sleepSeconds text) none true := by
  unfold action Catalog.resolveAction
  dsimp only
  cases Service.detect? (toLowerCase clause) with
  | some service => rfl
  | none => rfl

theorem isFallback_trigger (catalog : Catalog) (clause : Option String) :
    (trigger catalog clause).isFallback = true ↔
      ∀ s, (trigger catalog clause).service = some s → ∀ text, s.trigger? text = none := by
  rw [trigger_eq]
  dsimp only
  split
  . rename_i choice hchoice
    obtain ⟨s, hs, htrigger⟩ := Option.bind_eq_some_iff.1 hchoice
    constructor
    . intro h
      cases h
    . intro h
      rw [h s hs] at htrigger
      cases htrigger
  . rename_i hnone
    constructor
    . intro _ s hs text
      exact Service.trigger?_eq_none (Option.bind_eq_none_iff.1 hnone s hs) text
    . intro _
      rfl

theorem isFallback_action (catalog : Catalog) (sleepSeconds : Json) (clause : String) :
    (action catalog sleepSeconds clause).isFallback = true ↔
      (action catalog sleepSeconds clause).service = none := by
  rw [action_eq]
  dsimp only
  split
  . simp [of]
  . simp [of]

end Resolution

namespace Resolved

def IsLogged (role : Log.Role) (r : Resolved) : Prop :=
  r.events = if r.resolution.isFallback then
    [.fallback role r.resolution.serviceName r.resolution.moduleType] else []

theorem isLogged_resolveTrigger (catalog : Catalog) (clause : Option String) :
    (catalog.resolveTrigger clause).IsLogged .trigger := by
  unfold Catalog.resolveTrigger
  dsimp only
  split
  . rfl
  . rfl

theorem isLogged_resolveAction (catalog : Catalog) (sleepSeconds : Json) (clause : String) :
    (catalog.resolveAction sleepSeconds clause).IsLogged .action := by
  unfold Catalog.resolveAction
  dsimp only
  split
  . rfl
  . dsimp only [IsLogged, Resolution.of, Resolution.serviceName]
    rw [if_pos rfl]

/-- Where each resolution of one kind is logged, the log lists those that stand in, in
their order. -/
theorem flatMap_events {role : Log.Role} {rs : List Resolved} (h : ∀ r ∈ rs, r.IsLogged role) :
    rs.flatMap (·.events) =
      ((rs.map (·.resolution)).filter (·.isFallback)).map fun r =>
        .fallback role r.serviceName r.moduleType := by
  induction rs with
  | nil => rfl
  | cons r rs ih =>
    obtain ⟨hr, hrs⟩ := List.forall_mem_cons.1 h
    unfold IsLogged at hr
    rw [List.flatMap_cons, ih hrs, hr, List.map_cons, List.filter_cons]
    cases r.resolution.isFallback with
    | true => rw [if_pos rfl, if_pos rfl, List.map_cons, List.singleton_append]
    | false => rw [if_neg (by simp), if_neg (by simp), List.nil_append]

end Resolved

end Automation
