import Automation.Text.Case
import Automation.Text.Search

/-!
This module contains the services that descriptions can name, and the words that give a service
away.
-/

namespace Automation

inductive Service where
  | slack
  | googleSheets
  | mailchimp
  | email
  | http
  | openai
  | airtable
  | notion
  | shopify
  | stripe
  | github
  | trello
  | discord
  | twilio
  | sendgrid
  | hubspot
  | salesforce
  deriving Repr, DecidableEq

namespace Service

def name : Service → String
  | slack => "slack"
  | googleSheets => "google-sheets"
  | mailchimp => "mailchimp"
  | email => "email"
  | http => "http"
  | openai => "openai"
  | airtable => "airtable"
  | notion => "notion"
  | shopify => "shopify"
  | stripe => "stripe"
  | github => "github"
  | trello => "trello"
  | discord => "discord"
  | twilio => "twilio"
  | sendgrid => "sendgrid"
  | hubspot => "hubspot"
  | salesforce => "salesforce"

def all : List Service := [
  -- The newsletter service stands before the mail service, whose keywords occur in its name.
  slack, googleSheets, mailchimp, email, http, openai, airtable, notion, shopify, stripe, github,
  trello, discord, twilio, sendgrid, hubspot, salesforce
]

theorem mem_all (s : Service) : s ∈ all := by
  cases s <;> decide

def keywords : Service → List String
  | slack => ["slack", "channel", "message to slack"]
  | googleSheets => ["google sheets", "spreadsheet", "sheet", "gsheet"]
  | mailchimp => ["mailchimp", "newsletter"]
  | email => ["email", "mail", "smtp"]
  | http => ["api", "webhook", "http", "request"]
  | openai => ["openai", "chatgpt", "gpt", "use ai", "using ai", "with ai", "ai model"]
  | airtable => ["airtable", "base"]
  | notion => ["notion", "page"]
  | shopify => ["shopify", "order", "product"]
  | stripe => ["stripe", "payment", "charge"]
  | github => ["github", "issue", "pull request"]
  | trello => ["trello", "card", "board"]
  | discord => ["discord"]
  | twilio => ["sms", "text message", "twilio"]
  | sendgrid => ["sendgrid"]
  | hubspot => ["hubspot", "contact", "deal"]
  | salesforce => ["salesforce", "lead", "opportunity"]

def ofName? (name : String) : Option Service :=
  all.find? (·.name == name)

@[simp]
theorem ofName?_name (s : Service) : ofName? s.name = some s := by
  cases s <;> decide

def named? (text : String) : Option Service :=
  all.find? fun s => mentions text s.keywords

def detect? (text : String) : Option Service :=
  named? (toLowerCase text)

end Service

end Automation
