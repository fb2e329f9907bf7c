import Automation.Catalog.Basic

/-!
This module contains the catalog that is used where no other is configured.
-/

namespace Automation.Catalog

private def entry (moduleType : String) (version : Int) (label category kind : String) : Entry :=
  { moduleType, version, label := .string label, category, kind := .string kind }

def bundledEntries : List Entry := [
  entry "webhook.customWebhook" 1 "Custom webhook" "triggers" "trigger",
  entry "schedule.trigger" 1 "Scheduled run" "triggers" "trigger",
  entry "google-sheets.watchRows" 2 "Watch rows" "google-workspace" "trigger",
  entry "google-sheets.addRow" 2 "Add a row" "google-workspace" "action",
  entry "google-sheets.updateRow" 2 "Update a row" "google-workspace" "action",
  entry "google-sheets.searchRows" 2 "Search rows" "google-workspace" "action",
  entry "google-sheets.deleteRow" 2 "Delete a row" "google-workspace" "action",
  entry "google-sheets.bulkAddRows" 2 "Bulk add rows" "google-workspace" "action",
  entry "slack.watchMessages" 1 "Watch public channel messages" "communication" "trigger",
  entry "slack.postMessage" 4 "Create a message" "communication" "action",
  entry "slack.uploadFile" 2 "Upload a file" "communication" "action",
  entry "slack.createChannel" 1 "Create a channel" "communication" "action",
  entry "email.watchEmails" 7 "Watch emails" "communication" "trigger",
  entry "email.sendEmail" 7 "Send an email" "communication" "action",
  entry "sendgrid.sendEmail" 3 "Send an email" "communication" "action",
  entry "discord.sendMessage" 2 "Send a message" "communication" "action",
  entry "twilio.sendSMS" 1 "Send an SMS" "communication" "action",
  entry "twilio.makeCall" 1 "Make a call" "communication" "action",
  entry "mailchimp.addSubscriber" 2 "Add/update a subscriber" "communication" "action",
  entry "openai.createCompletion" 1 "Create a completion" "ai" "action",
  entry "openai.createImage" 1 "Generate an image" "ai" "action",
  entry "http.makeRequest" 3 "Make a request" "utilities" "action",
  entry "http.webhookResponse" 1 "Webhook response" "utilities" "action",
  entry "flow.router" 1 "Router" "utilities" "flow",
  entry "flow.sleep" 1 "Sleep" "utilities" "flow",
  entry "flow.iterator" 1 "Iterator" "utilities" "flow",
  entry "flow.aggregator" 1 "Array aggregator" "utilities" "flow",
  entry "util.jsonParser" 1 "Parse JSON" "utilities" "action",
  entry "util.textParser" 1 "Match pattern" "utilities" "action",
  entry "util.setVariable" 2 "Set variable" "utilities" "action",
  entry "datastore.addRecord" 1 "Add/replace a record" "utilities" "action",
  entry "datastore.searchRecords" 1 "Search records" "utilities" "action",
  entry "datastore.updateRecord" 1 "Update a record" "utilities" "action",
  entry "datastore.deleteRecord" 1 "Delete a record" "utilities" "action",
  entry "airtable.watchRecords" 3 "Watch records" "databases" "trigger",
  entry "airtable.createRecord" 3 "Create a record" "databases" "action",
  entry "airtable.updateRecord" 3 "Update a record" "databases" "action",
  entry "airtable.searchRecords" 3 "Search records" "databases" "action",
  entry "notion.createPage" 2 "Create a database item" "databases" "action",
  entry "notion.updatePage" 2 "Update a database item" "databases" "action",
  entry "shopify.watchOrders" 1 "Watch orders" "commerce" "trigger",
  entry "shopify.createOrder" 1 "Create an order" "commerce" "action",
  entry "shopify.updateInventory" 1 "Update inventory level" "commerce" "action",
  entry "shopify.createProduct" 1 "Create a product" "commerce" "action",
  entry "stripe.watchEvents" 1 "Watch events" "commerce" "trigger",
  entry "stripe.createPaymentIntent" 1 "Create a payment intent" "commerce" "action",
  entry "stripe.createCustomer" 1 "Create a customer" "commerce" "action",
  entry "stripe.createRefund" 1 "Create a refund" "commerce" "action",
  entry "github.watchIssues" 1 "Watch issues" "development" "trigger",
  entry "github.createIssue" 1 "Create an issue" "development" "action",
  entry "github.createComment" 1 "Create a comment" "development" "action",
  entry "trello.createCard" 1 "Create a card" "development" "action",
  entry "trello.moveCard" 1 "Move a card" "development" "action",
  entry "hubspot.createContact" 2 "Create a contact" "crm" "action",
  entry "hubspot.updateContact" 2 "Update a contact" "crm" "action",
  entry "hubspot.createDeal" 2 "Create a deal" "crm" "action",
  entry "salesforce.watchRecords" 1 "Watch records" "crm" "trigger",
  entry "salesforce.createRecord" 1 "Create a record" "crm" "action",
  entry "salesforce.updateRecord" 1 "Update a record" "crm" "action",
  entry "salesforce.searchRecords" 1 "Search records" "crm" "action"
]

def bundledFile : String := "modules.json"

def bundled : Catalog :=
  { entries := bundledEntries, version := "2024.06" }

end Automation.Catalog
