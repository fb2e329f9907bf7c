import Automation.Choice.Trigger

/-!
This module contains the modules that act in a service. Secondary words in the text of an action
pick one of the modules of its service.
-/

namespace Automation

namespace Choice

def slackAction (text : String) : Choice :=
  if mentions text ["upload", "file"] then
    ⟨"slack.uploadFile", [
      ("channels", .array ["#general"]),
      ("filename", "report.pdf"),
      ("data", slot "previousModule.file")
    ]⟩
  else if mentions text ["create"] && mentions text ["channel"] then
    ⟨"slack.createChannel", [("name", slot "channelName"), ("isPrivate", false)]⟩
  else
    ⟨"slack.postMessage", [
      ("channel", "#general"),
      ("text", "Automated message: " ++ slot "trigger.data"),
      ("attachments", .array [])
    ]⟩

def onSheet (operation : String) (parameters : Fields) : Choice where
  moduleType := "google-sheets." ++ operation
  parameters := ("spreadsheetId", slot "spreadsheetId") :: ("sheetId", "Sheet1") :: parameters

def sheetsAction (text : String) : Choice :=
  if mentions text ["add", "create", "new", "append", "log", "insert"] then
    onSheet "addRow" [
      ("values", .object [
        ("Column A", slot "trigger.field1"),
        ("Column B", slot "trigger.field2")
      ])
    ]
  else if mentions text ["update"] then
    onSheet "updateRow" [
      ("rowNumber", slot "previousModule.rowNumber"),
      ("values", .object [("Status", "Updated")])
    ]
  else if mentions text ["search", "find", "look up", "lookup"] then
    onSheet "searchRows" [
      ("filter", .object [
        ("conditions", .array [.array [.object [
          ("a", "Column A"),
          ("b", slot "trigger.searchTerm"),
          ("o", "contains")
        ]]])
      ])
    ]
  else if mentions text ["delete", "remove"] then
    onSheet "deleteRow" [("rowNumber", slot "previousModule.rowNumber")]
  else
    onSheet "addRow" [
      ("values", .object [("Column A", slot "trigger.data")])
    ]

def emailAction (text : String) : Choice :=
  let bodyField := if mentions text ["html", "formatted"] then "html" else "text"
  ⟨"sendgrid.sendEmail", [
    ("to", slot "trigger.email"),
    ("from", "noreply@example.com"),
    ("subject", "Automated Email"),
    (bodyField, "This is an automated message.")
  ]⟩

def openaiAction (text : String) : Choice :=
  if mentions text ["image", "picture", "illustration"] then
    ⟨"openai.createImage", [
      ("prompt", slot "trigger.prompt"),
      ("size", "1024x1024"),
      ("n", 1)
    ]⟩
  else
    ⟨"openai.createCompletion", [
      ("model", "gpt-4"),
      ("messages", .array [
        .object [("role", "system"), ("content", "You are a helpful assistant.")],
        .object [("role", "user"), ("content", slot "trigger.prompt")]
      ]),
      ("temperature", .real (.ofDecimal false 7 (-1))),
      ("max_tokens", 2000)
    ]⟩

def requestMethods : List (String × List String) := [
  -- An earlier method goes before a later one.
  ("GET", ["get", "fetch", "retrieve", "download"]),
  ("PUT", ["put"]),
  ("PATCH", ["patch"]),
  ("DELETE", ["delete"]),
  ("POST", ["post"])
]

def requestMethod (text : String) : String :=
  match requestMethods.find? fun (_, words) => hasWord text words with
  | some (method, _) => method
  | none => "POST"

def httpAction (text : String) : Choice :=
  if mentions text ["respond", "response", "reply"] then
    ⟨"http.webhookResponse", [
      ("status", 200),
      ("headers", .array [.object [("name", "Content-Type"), ("value", "application/json")]]),
      ("body", slot "previousModule.data")
    ]⟩
  else
    ⟨"http.makeRequest", [
      ("url", "https://api.example.com/endpoint"),
      ("method", requestMethod text),
      ("headers", .array []),
      ("body", .object [("data", slot "trigger.data")])
    ]⟩

def onTable (operation : String) (parameters : Fields) : Choice where
  moduleType := "airtable." ++ operation
  parameters := ("baseId", slot "baseId") :: ("tableId", "Table 1") :: parameters

def airtableAction (text : String) : Choice :=
  if mentions text ["create", "add"] then
    onTable "createRecord" [
      ("fields", .object [("Name", slot "trigger.name"), ("Status", "New")])
    ]
  else if mentions text ["update"] then
    onTable "updateRecord" [
      ("recordId", slot "previousModule.id"),
      ("fields", .object [("Status", "Updated")])
    ]
  else if mentions text ["search", "find"] then
    onTable "searchRecords" [
      ("formula", "\x7bName\x7d = '" ++ slot "trigger.name" ++ "'")
    ]
  else
    onTable "createRecord" [("fields", .object [("Name", slot "trigger.name")])]

def notionAction (text : String) : Choice :=
  if mentions text ["update"] then
    ⟨"notion.updatePage", [
      ("pageId", slot "previousModule.id"),
      ("properties", .object [
        ("Status", .object [("select", .object [("name", "Updated")])])
      ])
    ]⟩
  else
    ⟨"notion.createPage", [
      ("databaseId", slot "notionDatabaseId"),
      ("properties", .object [
        ("Name", .object [
          ("title", .array [
            .object [("text", .object [("content", slot "trigger.title")])]
          ])
        ])
      ])
    ]⟩

def shopifyAction (text : String) : Choice :=
  if mentions text ["inventory"] then
    ⟨"shopify.updateInventory", [
      ("inventory_item_id", slot "trigger.item_id"),
      ("quantity", slot "trigger.quantity")
    ]⟩
  else if mentions text ["product"] && !mentions text ["order"] then
    ⟨"shopify.createProduct", [("title", slot "trigger.title"), ("status", "draft")]⟩
  else
    ⟨"shopify.createOrder", [
      ("line_items", .array [
        .object [("variant_id", slot "trigger.variant_id"), ("quantity", 1)]
      ]),
      ("customer", .object [("email", slot "trigger.email")])
    ]⟩

def stripeAction (text : String) : Choice :=
  if mentions text ["refund"] then
    ⟨"stripe.createRefund", [("payment_intent", slot "trigger.payment_intent")]⟩
  else if mentions text ["customer"] && !mentions text ["charge", "payment"] then
    ⟨"stripe.createCustomer", [
      ("email", slot "trigger.email"),
      ("name", slot "trigger.name")
    ]⟩
  else
    ⟨"stripe.createPaymentIntent", [
      ("amount", slot "trigger.amount"),
      ("currency", "usd"),
      ("customer", slot "trigger.customer_id")
    ]⟩

def onRepository (operation : String) (parameters : Fields) : Choice where
  moduleType := "github." ++ operation
  parameters := ("owner", slot "githubOwner") :: ("repo", slot "githubRepo") :: parameters

def githubAction (text : String) : Choice :=
  if mentions text ["comment"] then
    onRepository "createComment" [
      ("issue_number", slot "trigger.issue_number"),
      ("body", slot "trigger.comment")
    ]
  else
    onRepository "createIssue" [
      ("title", slot "trigger.title"),
      ("body", slot "trigger.description")
    ]

def trelloAction (text : String) : Choice :=
  if mentions text ["move"] then
    ⟨"trello.moveCard", [
      ("card_id", slot "previousModule.id"),
      ("list_id", slot "trelloListId")
    ]⟩
  else
    ⟨"trello.createCard", [
      ("list_id", slot "trelloListId"),
      ("name", slot "trigger.title"),
      ("desc", slot "trigger.description")
    ]⟩

def discordAction : Choice :=
  ⟨"discord.sendMessage", [
    ("channel_id", slot "discordChannelId"),
    ("content", slot "trigger.message")
  ]⟩

def twilioAction (text : String) : Choice :=
  if mentions text ["call"] then
    ⟨"twilio.makeCall", [("to", slot "trigger.phone"), ("from", "+1234567890")]⟩
  else
    ⟨"twilio.sendSMS", [
      ("to", slot "trigger.phone"),
      ("from", "+1234567890"),
      ("body", "Automated SMS: " ++ slot "trigger.message")
    ]⟩

def mailchimpAction : Choice :=
  ⟨"mailchimp.addSubscriber", [
    ("list_id", slot "mailchimpListId"),
    ("email_address", slot "trigger.email"),
    ("merge_fields", .object [
      ("FNAME", slot "trigger.firstName"),
      ("LNAME", slot "trigger.lastName")
    ])
  ]⟩

def hubspotAction (text : String) : Choice :=
  if mentions text ["update"] then
    ⟨"hubspot.updateContact", [
      ("contactId", slot "previousModule.id"),
      ("properties", .object [("lifecyclestage", "customer")])
    ]⟩
  else if mentions text ["deal"] && !mentions text ["contact"] then
    ⟨"hubspot.createDeal", [
      ("properties", .object [
        ("dealname", slot "trigger.dealName"),
        ("amount", slot "trigger.amount")
      ])
    ]⟩
  else
    ⟨"hubspot.createContact", [
      ("email", slot "trigger.email"),
      ("properties", .object [
        ("firstname", slot "trigger.firstName"),
        ("lastname", slot "trigger.lastName")
      ])
    ]⟩

def salesforceAction (text : String) : Choice :=
  let record := recordType text
  if mentions text ["update"] then
    ⟨"salesforce.updateRecord", [
      ("object", record),
      ("id", slot "previousModule.id"),
      ("fields", .object [("Status", "Updated")])
    ]⟩
  else if mentions text ["search", "find"] then
    ⟨"salesforce.searchRecords", [
      ("object", record),
      ("query", "SELECT Id, Name, Email FROM " ++ record)
    ]⟩
  else
    ⟨"salesforce.createRecord", [
      ("object", record),
      ("fields", .object [
        ("LastName", slot "trigger.lastName"),
        ("Company", slot "trigger.company"),
        ("Email", slot "trigger.email")
      ])
    ]⟩

def fallbackAction (sleepSeconds : Json) (text : String) : Choice :=
  if mentions text ["wait", "delay", "pause"] then
    ⟨"flow.sleep", [("delay", sleepSeconds)]⟩
  else if mentions text ["parse"] then
    ⟨"util.jsonParser", [("jsonString", slot "previousModule.data")]⟩
  else
    ⟨"http.makeRequest", [
      ("url", "https://api.example.com/webhook"),
      ("method", "POST"),
      ("headers", .array []),
      ("body", .null)
    ]⟩

end Choice

namespace Service

def action (s : Service) (text : String) : Choice :=
  -- Mail goes out through a delivery service.
  match s with
  | slack => Choice.slackAction text
  | googleSheets => Choice.sheetsAction text
  | email => Choice.emailAction text
  | sendgrid => Choice.emailAction text
  | openai => Choice.openaiAction text
  | http => Choice.httpAction text
  | airtable => Choice.airtableAction text
  | notion => Choice.notionAction text
  | shopify => Choice.shopifyAction text
  | stripe => Choice.stripeAction text
  | github => Choice.githubAction text
  | trello => Choice.trelloAction text
  | discord => Choice.discordAction
  | twilio => Choice.twilioAction text
  | mailchimp => Choice.mailchimpAction
  | hubspot => Choice.hubspotAction text
  | salesforce => Choice.salesforceAction text

end Service

end Automation
