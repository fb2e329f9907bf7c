import Automation.Archive
import Automation.Assembly
import Automation.Blueprint.Basic
import Automation.Blueprint.Document
import Automation.Blueprint.Placeholder
import Automation.Blueprint.Report
import Automation.Blueprint.Validation
import Automation.Catalog.Basic
import Automation.Catalog.Bundled
import Automation.Choice.Action
import Automation.Choice.Basic
import Automation.Choice.Trigger
import Automation.Compilation
import Automation.Console.Arguments
import Automation.Console.Color
import Automation.Console.Command
import Automation.Console.Emoji
import Automation.Console.Literal
import Automation.Console.Markup
import Automation.Console.Style
import Automation.Description.Clause
import Automation.Description.Extraction
import Automation.Description.Name
import Automation.Description.Normal
import Automation.Description.Phrase
import Automation.Description.Schedule
import Automation.Digest.Sha256
import Automation.Http
import Automation.Json.Basic
import Automation.Json.Coercion
import Automation.Json.Fault
import Automation.Json.Literal
import Automation.Json.Printer
import Automation.Json.Reader
import Automation.Json.Token
import Automation.Log
import Automation.Main
import Automation.Number.Binary64
import Automation.Number.Power
import Automation.Number.Shortest
import Automation.Proofs.Archive.Compose
import Automation.Proofs.Archive.Kept
import Automation.Proofs.Archive.Repeat
import Automation.Proofs.Archive.Step
import Automation.Proofs.Assembly.Beside
import Automation.Proofs.Assembly.Chain
import Automation.Proofs.Assembly.FirstBuild
import Automation.Proofs.Assembly.Noted
import Automation.Proofs.Assembly.Operation
import Automation.Proofs.Assembly.Refused
import Automation.Proofs.Assembly.RoundTrip
import Automation.Proofs.Assembly.Settled
import Automation.Proofs.Assembly.Summary
import Automation.Proofs.Blueprint.Diagnosis
import Automation.Proofs.Blueprint.Document
import Automation.Proofs.Blueprint.Grammar
import Automation.Proofs.Blueprint.Malformed
import Automation.Proofs.Blueprint.NormalForm
import Automation.Proofs.Blueprint.Placeholder
import Automation.Proofs.Blueprint.Report
import Automation.Proofs.Blueprint.RoundTrip
import Automation.Proofs.Blueprint.Summary
import Automation.Proofs.Blueprint.Validation
import Automation.Proofs.Catalog.Flaws
import Automation.Proofs.Catalog.Lookup
import Automation.Proofs.Catalog.Reported
import Automation.Proofs.Choice.Offered
import Automation.Proofs.Choice.Parameters
import Automation.Proofs.Compilation.Account
import Automation.Proofs.Compilation.Announced
import Automation.Proofs.Compilation.Answered
import Automation.Proofs.Compilation.Artifact
import Automation.Proofs.Compilation.Comparison
import Automation.Proofs.Compilation.Confinement
import Automation.Proofs.Compilation.Follows
import Automation.Proofs.Compilation.Normal
import Automation.Proofs.Compilation.Offered
import Automation.Proofs.Compilation.Reread
import Automation.Proofs.Compilation.RoundTrip
import Automation.Proofs.Compilation.Shape
import Automation.Proofs.Compilation.Summary
import Automation.Proofs.Console.Delivery
import Automation.Proofs.Console.Exchange
import Automation.Proofs.Console.Markup
import Automation.Proofs.Console.Message
import Automation.Proofs.Console.Render
import Automation.Proofs.Console.Shown
import Automation.Proofs.Console.Style
import Automation.Proofs.Console.Tail
import Automation.Proofs.Console.Tame
import Automation.Proofs.Console.Unmarked
import Automation.Proofs.Console.Unreadable
import Automation.Proofs.Console.Verdict
import Automation.Proofs.Description.Action
import Automation.Proofs.Description.Announcement
import Automation.Proofs.Description.Clause
import Automation.Proofs.Description.Comparison
import Automation.Proofs.Description.Condition
import Automation.Proofs.Description.Cut
import Automation.Proofs.Description.Extraction
import Automation.Proofs.Description.First
import Automation.Proofs.Description.Name
import Automation.Proofs.Description.Normal
import Automation.Proofs.Description.Numeral
import Automation.Proofs.Description.Pattern
import Automation.Proofs.Description.Phrase
import Automation.Proofs.Description.Schedule
import Automation.Proofs.Description.Search
import Automation.Proofs.Description.Segments
import Automation.Proofs.Description.Trigger
import Automation.Proofs.Http.Check
import Automation.Proofs.Http.Recompose
import Automation.Proofs.Http.Step
import Automation.Proofs.Http.Views
import Automation.Proofs.Json.Basic
import Automation.Proofs.Json.Coercion
import Automation.Proofs.Json.Legible
import Automation.Proofs.Json.Lines
import Automation.Proofs.Json.Sendable
import Automation.Proofs.Json.Sorted
import Automation.Proofs.Json.Token
import Automation.Proofs.Outcome
import Automation.Proofs.Resolution
import Automation.Proofs.Route
import Automation.Proofs.Route.Announced
import Automation.Proofs.Route.Filter
import Automation.Proofs.Route.Slot
import Automation.Proofs.Route.Spelling
import Automation.Proofs.Route.Split
import Automation.Proofs.Service
import Automation.Proofs.Text.Case
import Automation.Proofs.Text.Glyphs
import Automation.Proofs.Text.Order
import Automation.Proofs.Text.Strip
import Automation.Proofs.Text.Words
import Automation.Resolution
import Automation.Route
import Automation.Service
import Automation.Settings.Basic
import Automation.Settings.Numeral
import Automation.Settings.Tuning
import Automation.Text.Basic
import Automation.Text.Blank
import Automation.Text.Case
import Automation.Text.Caseless
import Automation.Text.Digit
import Automation.Text.Numeral
import Automation.Text.Printable
import Automation.Text.Quoted
import Automation.Text.Range
import Automation.Text.Search
import Automation.Text.Width
import Automation.Text.Word
