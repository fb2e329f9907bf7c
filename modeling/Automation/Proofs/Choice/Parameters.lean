import Automation.Proofs.Json.Sendable
import Automation.Proofs.Resolution

/-!
This module contains what all modules that stand for clauses have in common: their parameters are
tidy documents, whatever the clauses say.
-/

namespace Automation

namespace Choice

def parameterDepth : Nat := 6

def IsTidy (c : Choice) : Prop :=
  (Json.object c.parameters).isTidy parameterDepth = true

theorem isTidy_fallbackTrigger : fallbackTrigger.IsTidy := rfl

theorem isTidy_fallbackAction (sleepSeconds : Int) (text : String) :
    (fallbackAction (.int sleepSeconds) text).IsTidy := by
  unfold fallbackAction
  split
  . rfl
  . split
    . rfl
    . rfl

end Choice

namespace Service

open Choice

theorem isTidy_trigger {s : Service} {text : String} {c : Choice} (h : s.trigger? text = some c) :
    c.IsTidy := by
  cases s
  all_goals
    cases h
    try rfl

theorem isTidy_action (s : Service) (text : String) : (s.action text).IsTidy := by
  cases s
  all_goals
    simp only [action, slackAction, sheetsAction, emailAction, openaiAction, httpAction,
      airtableAction, notionAction, shopifyAction, stripeAction, githubAction, trelloAction,
      discordAction, twilioAction, mailchimpAction, hubspotAction, salesforceAction]
    repeat' split
  all_goals rfl

end Service

namespace Resolution

def IsTidy (r : Resolution) : Prop :=
  (Json.object r.parameters).isTidy Choice.parameterDepth = true

theorem isTidy_trigger (catalog : Catalog) (clause : Option String) :
    (trigger catalog clause).IsTidy := by
  rw [trigger_eq]
  dsimp only
  split
  . rename_i choice hchoice
    obtain ⟨s, _, hs⟩ := Option.bind_eq_some_iff.1 hchoice
    exact Service.isTidy_trigger hs
  . exact Choice.isTidy_fallbackTrigger

theorem isTidy_action (catalog : Catalog) (sleepSeconds : Int) (clause : String) :
    (action catalog (.int sleepSeconds) clause).IsTidy := by
  rw [action_eq]
  dsimp only
  split
  . apply Service.isTidy_action
  . apply Choice.isTidy_fallbackAction

end Resolution

end Automation
