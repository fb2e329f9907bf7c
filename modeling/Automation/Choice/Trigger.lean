import Automation.Choice.Basic
import Automation.Service

/-!
This module contains the modules that start an automation, one for each service that can.
-/

namespace Automation

namespace Choice

def fallbackTriggerType : String :=
  "webhook.customWebhook"

def fallbackTrigger : Choice where
  moduleType := fallbackTriggerType
  parameters := [
    ("name", "Automated Trigger"),
    ("dataStructure", .object [
      ("type", "collection"),
      ("spec", .array [.object [("name", "data"), ("type", "text"), ("required", true)]])
    ])
  ]

def recordType (text : String) : String :=
  if mentions text ["contact"] then "Contact"
  else if mentions text ["opportunity"] then "Opportunity"
  else "Lead"

end Choice

namespace Service

def trigger? (s : Service) (text : String) : Option Choice :=
  match s with
  | slack => some ⟨"slack.watchMessages", [
      ("channel", "#general"),
      ("botMention", mentions text ["mention"])
    ]⟩
  | googleSheets => some ⟨"google-sheets.watchRows", [
      ("spreadsheetId", slot "spreadsheetId"),
      ("sheetId", "Sheet1"),
      ("limit", 10)
    ]⟩
  | email => some ⟨"email.watchEmails", [
      ("folder", "INBOX"),
      ("criteria", .object [("unseen", true)]),
      ("maxResults", 10)
    ]⟩
  | shopify => some ⟨"shopify.watchOrders", [("status", "any"), ("limit", 10)]⟩
  | stripe => some ⟨"stripe.watchEvents", [("events", .array ["payment_intent.succeeded"])]⟩
  | salesforce => some ⟨"salesforce.watchRecords", [
      ("object", Choice.recordType text),
      ("limit", 10)
    ]⟩
  | airtable => some ⟨"airtable.watchRecords", [
      ("baseId", slot "baseId"),
      ("tableId", slot "tableId"),
      ("limit", 10)
    ]⟩
  | github => some ⟨"github.watchIssues", [
      ("owner", slot "githubOwner"),
      ("repo", slot "githubRepo"),
      ("state", "open")
    ]⟩
  | _ => none

end Service

end Automation
