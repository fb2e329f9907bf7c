import Automation.Blueprint.Report
import Automation.Catalog.Bundled
import Automation.Proofs.Text.Case
import Automation.Proofs.Resolution

/-!
This module contains the modules that the bundled catalog offers for clauses. Whatever a clause
says, it stands for a module of the catalog, of the kind that its place asks for and in the version
that the catalog has, and for one of its own service unless the clause names none that could do it.
-/

namespace Automation

namespace Catalog

def kindOf? (catalog : Catalog) (moduleType : Text) : Option Json :=
  (catalog.find? moduleType).map (·.kind)

def Offers (catalog : Catalog) (moduleType : Text) (version : Int) (starts : Prop) : Prop :=
  ∃ entry, catalog.find? moduleType = some entry ∧ version = entry.version ∧
    (entry.kind = .string "trigger" ↔ starts)

theorem offers_of_kindOf? {catalog : Catalog} {moduleType : Text} {kind : Json} {starts : Prop}
    (h : catalog.kindOf? moduleType = some kind) (hstarts : kind = .string "trigger" ↔ starts) :
    catalog.Offers moduleType (catalog.versionOf moduleType) starts := by
  obtain ⟨entry, hentry, rfl⟩ := Option.map_eq_some_iff.1 h
  refine ⟨entry, hentry, ?_, hstarts⟩
  rw [versionOf, hentry]

end Catalog

namespace Service

section Detect

theorem detect?_toLowerCase (text : String) : detect? (toLowerCase text) = detect? text := by
  rw [detect?, detect?, toLowerCase, toLowerCase, String.toList_ofList, Text.lower_lower]

theorem detect?_empty : detect? "" = none := by
  decide +kernel

theorem detect?_of_isEmpty {text : String} (h : (toLowerCase text).isEmpty = true) :
    detect? text = none := by
  rw [← detect?_toLowerCase, String.isEmpty_iff.1 h, detect?_empty]

end Detect

section Types

def starting : List Service :=
  [slack, googleSheets, email, shopify, stripe, salesforce, airtable, github]

def triggerType? : Service → Option String
  | slack => some "slack.watchMessages"
  | googleSheets => some "google-sheets.watchRows"
  | email => some "email.watchEmails"
  | shopify => some "shopify.watchOrders"
  | stripe => some "stripe.watchEvents"
  | salesforce => some "salesforce.watchRecords"
  | airtable => some "airtable.watchRecords"
  | github => some "github.watchIssues"
  | _ => none

def actionTypes : Service → List String
  | slack => ["slack.uploadFile", "slack.createChannel", "slack.postMessage"]
  | googleSheets => ["google-sheets.addRow", "google-sheets.updateRow", "google-sheets.searchRows",
      "google-sheets.deleteRow"]
  | mailchimp => ["mailchimp.addSubscriber"]
  | email => ["sendgrid.sendEmail"]
  | http => ["http.webhookResponse", "http.makeRequest"]
  | openai => ["openai.createImage", "openai.createCompletion"]
  | airtable => ["airtable.createRecord", "airtable.updateRecord", "airtable.searchRecords"]
  | notion => ["notion.updatePage", "notion.createPage"]
  | shopify => ["shopify.updateInventory", "shopify.createProduct", "shopify.createOrder"]
  | stripe => ["stripe.createRefund", "stripe.createCustomer", "stripe.createPaymentIntent"]
  | github => ["github.createComment", "github.createIssue"]
  | trello => ["trello.moveCard", "trello.createCard"]
  | discord => ["discord.sendMessage"]
  | twilio => ["twilio.makeCall", "twilio.sendSMS"]
  | sendgrid => ["sendgrid.sendEmail"]
  | hubspot => ["hubspot.updateContact", "hubspot.createDeal", "hubspot.createContact"]
  | salesforce => ["salesforce.updateRecord", "salesforce.searchRecords", "salesforce.createRecord"]

/-- The service whose modules do what a service is asked for. -/
def acting (s : Service) : Service :=
  if s = email then sendgrid else s

theorem map_moduleType_trigger? (s : Service) (text : String) :
    (s.trigger? text).map (·.moduleType) = s.triggerType? := by
  cases s <;> rfl

theorem moduleType_mem_actionTypes (s : Service) (text : String) :
    (s.action text).moduleType ∈ s.actionTypes := by
  cases s
  all_goals
    simp only [action, Choice.slackAction, Choice.sheetsAction, Choice.emailAction,
      Choice.openaiAction, Choice.httpAction, Choice.airtableAction, Choice.notionAction,
      Choice.shopifyAction, Choice.stripeAction, Choice.githubAction, Choice.trelloAction,
      Choice.discordAction, Choice.twilioAction, Choice.mailchimpAction, Choice.hubspotAction,
      Choice.salesforceAction, Choice.onSheet, Choice.onTable, Choice.onRepository]
    repeat' split
  all_goals simp [actionTypes]

theorem mem_starting_iff (s : Service) : s ∈ starting ↔ s.triggerType?.isSome = true := by
  cases s <;> decide

theorem kindOf?_triggerType {s : Service} {moduleType : String}
    (h : s.triggerType? = some moduleType) :
    Catalog.bundled.kindOf? moduleType = some (.string "trigger") ∧
      servicePart moduleType = s.name := by
  revert h
  cases s
  all_goals
    rintro ⟨⟩
    try decide +kernel

theorem kindOf?_actionTypes {s : Service} {moduleType : String} (h : moduleType ∈ s.actionTypes) :
    Catalog.bundled.kindOf? moduleType = some (.string "action") ∧
      servicePart moduleType = s.acting.name := by
  have hall : ∀ m ∈ s.actionTypes, Catalog.bundled.kindOf? m = some (.string "action") ∧
      servicePart m = s.acting.name := by
    cases s <;> decide +kernel
  exact hall moduleType h

end Types

end Service

namespace Choice

def fallbackActionTypes : List String :=
  ["flow.sleep", "util.jsonParser", "http.makeRequest"]

theorem moduleType_mem_fallbackActionTypes (sleepSeconds : Json) (text : String) :
    (fallbackAction sleepSeconds text).moduleType ∈ fallbackActionTypes := by
  unfold fallbackAction
  repeat' split
  all_goals simp [fallbackActionTypes]

theorem kindOf?_fallbackTrigger :
    Catalog.bundled.kindOf? fallbackTrigger.moduleType = some (.string "trigger") := by
  decide +kernel

theorem kindOf?_fallbackActionTypes {moduleType : String} (h : moduleType ∈ fallbackActionTypes) :
    ∃ kind, Catalog.bundled.kindOf? moduleType = some kind ∧ kind ≠ .string "trigger" := by
  have hall : ∀ m ∈ fallbackActionTypes, ∃ kind ∈ [.string "action", .string "flow"],
      Catalog.bundled.kindOf? m = some kind ∧ kind ≠ .string "trigger" := by
    decide +kernel
  obtain ⟨kind, -, hkind⟩ := hall moduleType h
  exact ⟨kind, hkind⟩

end Choice

namespace Resolution

structure Starts (clause : Option String) (r : Resolution) : Prop where
  offered : Catalog.bundled.Offers r.moduleType r.version True
  service : r.service = clause.bind Service.detect?
  isFallback : r.isFallback = true ↔
    ∀ s, clause.bind Service.detect? = some s → s ∉ Service.starting
  servicePart : r.isFallback = false →
    ∃ s, clause.bind Service.detect? = some s ∧ servicePart r.moduleType = s.name

structure Acts (clause : String) (r : Resolution) : Prop where
  offered : Catalog.bundled.Offers r.moduleType r.version False
  service : r.service = Service.detect? clause
  isFallback : r.isFallback = true ↔ Service.detect? clause = none
  servicePart : r.isFallback = false →
    ∃ s, Service.detect? clause = some s ∧ servicePart r.moduleType = s.acting.name

theorem offers_of {catalog : Catalog} {choice : Choice} {kind : Json} {starts : Prop}
    (h : catalog.kindOf? choice.moduleType = some kind) (hstarts : kind = .string "trigger" ↔ starts)
    (service : Option Service) (isFallback : Bool) :
    catalog.Offers (of catalog choice service isFallback).moduleType
      (of catalog choice service isFallback).version starts :=
  Catalog.offers_of_kindOf? h hstarts

theorem service_eq (clause : Option String) :
    (if (toLowerCase (clause.getD "")).isEmpty then none
      else Service.detect? (toLowerCase (clause.getD ""))) = clause.bind Service.detect? := by
  cases clause with
  | none => rfl
  | some text =>
    rw [Option.getD_some, Option.bind_some]
    split
    . rename_i hempty
      rw [Service.detect?_of_isEmpty hempty]
    . exact Service.detect?_toLowerCase text

theorem starts_trigger (clause : Option String) :
    Starts clause (trigger Catalog.bundled clause) := by
  rw [trigger_eq]
  dsimp only
  rw [service_eq]
  split
  . rename_i choice hchoice
    obtain ⟨s, hs, htrigger⟩ := Option.bind_eq_some_iff.1 hchoice
    have htype := Service.map_moduleType_trigger? s (toLowerCase (clause.getD ""))
    rw [htrigger, Option.map_some, eq_comm] at htype
    obtain ⟨hkind, hpart⟩ := Service.kindOf?_triggerType htype
    have hstarting : s ∈ Service.starting := by
      rw [Service.mem_starting_iff, htype]
      rfl
    refine ⟨offers_of hkind (by simp) _ _, rfl, ?_, fun _ => ⟨s, hs, hpart⟩⟩
    constructor
    . intro h
      cases h
    . intro h
      exact absurd hstarting (h s hs)
  . rename_i hnone
    refine ⟨offers_of Choice.kindOf?_fallbackTrigger (by simp) _ _, rfl, ?_, nofun⟩
    refine ⟨fun _ s hs => ?_, fun _ => rfl⟩
    rw [Service.mem_starting_iff,
      ← Service.map_moduleType_trigger? s (toLowerCase (clause.getD "")),
      Option.bind_eq_none_iff.1 hnone s hs]
    simp

theorem acts_action (sleepSeconds : Json) (clause : String) :
    Acts clause (action Catalog.bundled sleepSeconds clause) := by
  rw [action_eq]
  dsimp only
  rw [Service.detect?_toLowerCase]
  cases hs : Service.detect? clause with
  | some s =>
    obtain ⟨hkind, hpart⟩ := Service.kindOf?_actionTypes
      (Service.moduleType_mem_actionTypes s (toLowerCase clause))
    refine ⟨offers_of hkind (by simp) _ _, hs.symm, ?_, fun _ => ⟨s, hs, hpart⟩⟩
    simp [of, hs]
  | none =>
    obtain ⟨kind, hkind, hne⟩ := Choice.kindOf?_fallbackActionTypes
      (Choice.moduleType_mem_fallbackActionTypes sleepSeconds (toLowerCase clause))
    refine ⟨offers_of hkind (by simpa using hne) _ _, hs.symm, by simp [of, hs], ?_⟩
    intro h
    cases h

end Resolution

end Automation
