import Automation.Blueprint.Document
import Automation.Compilation
import Automation.Console.Markup
import Automation.Json.Printer

/-!
This module contains the commands of the console: composing a blueprint from a description, and
checking a file that holds one. What a command prints, logs and writes is a value; nothing is done.
-/

namespace Automation.Console

inductive Crash where
  | fault (fault : Fault)
  | refused (refusal : Refusal)
  | undecodable
  | markup (fault : Markup.Fault)
  deriving Repr, DecidableEq

inductive Ending where
  | succeeded
  | failed
  | crashed (crash : Crash)
  deriving Repr, DecidableEq

structure Outcome where
  output : String := ""
  errors : String := ""
  events : List Log.Event := []
  file : Option String := none
  ending : Ending := .succeeded
  deriving Repr, DecidableEq

def Outcome.exitCode (o : Outcome) : Nat :=
  match o.ending with
  | .succeeded => 0
  | _ => 1

def shown (markup : Text) : Except Crash Text :=
  match Markup.render markup.glyphs with
  | .ok gs => .ok (Text.ofGlyphs (gs ++ [.char '\n']))
  | .error f => .error (.markup f)

def printed (markup : Text) : Except Crash String := do
  (← shown markup).encoded.mapError .fault

def plain (text : Text) : Text :=
  Text.ofGlyphs (Markup.escape text.glyphs)

def Outcome.crash (o : Outcome) (crash : Crash) : Outcome :=
  { o with ending := .crashed crash }

def Outcome.say (o : Outcome) : List Text → Outcome
  -- Nothing is printed after the first message that cannot be.
  | [] => o
  | m :: ms =>
    match printed m with
    | .ok text => Outcome.say { o with output := o.output ++ text } ms
    | .error crash => o.crash crash

def nameHalves : Text → String
  | .whole s => s
  | .broken s h t => s ++ String.ofList (Json.unitEscape h.unit) ++ nameHalves t

def Outcome.fail (o : Outcome) (title : String) (errors : List Text) : Outcome :=
  let messages := ("[red]✗[/red] " ++ plain title) ::
    errors.map fun e => "  [red]•[/red] " ++ plain e
  match messages.mapM shown with
  | .ok texts => { o with errors := o.errors ++ nameHalves (Text.join texts), ending := .failed }
  | .error crash => o.crash crash

def fileName (path : String) : String :=
  String.ofList (path.toList.reverse.takeWhile (· != '/')).reverse

def directory (path : String) : String :=
  -- The whole path is the directory followed by the name of the file.
  String.ofList (path.toList.reverse.dropWhile (· != '/')).reverse

structure ComposeOptions where
  description : String
  name : Option String := none
  target : Option String := none
  deriving Repr, DecidableEq

def ComposeOptions.title (options : ComposeOptions) : Json :=
  match options.name with
  | some name => .string name
  | none => .null

def writtenMessages (c : Compilation) (target : String) : List Text :=
  let fallbacks := (Resolution.fallbacks c.resolutions).map (·.moduleType.text)
  let placeholders := c.blueprint.placeholders
  (if fallbacks.isEmpty then []
    else ["[yellow]Fallback modules:[/yellow] " ++ Text.intercalate ", " fallbacks]) ++
  (if placeholders.isEmpty then []
    else ["[dim]Placeholders to fill: " ++ Text.intercalate ", " placeholders ++ "[/dim]"]) ++
  [.whole ("[green]✓[/green] Wrote " ++ target)]

def deliver (o : Outcome) (c : Compilation) (target : Option String) : Outcome :=
  match c.blueprint.toJson with
  | .error f => o.crash (.fault f)
  | .ok document =>
    if !document.isWritable then
      o.crash (.fault .unwritableNumber)
    else
      let text := document.lines ++ "\n"
      match target with
      | none => { o with output := o.output ++ text }
      | some target =>
        let o := { o with file := some text }
        match printed c.blueprint.name.text with
        | .ok _ => o.say (writtenMessages c target)
        | .error crash => o.crash crash

def compose (t : Tuning) (catalogFile : String) (catalog : Except Catalog.Failure Catalog)
    (options : ComposeOptions) : Outcome :=
  match catalog with
  | .error (.fault f) => Outcome.crash {} (.fault f)
  | .error f => Outcome.fail {} "Catalog could not be loaded" [f.message]
  | .ok catalog =>
    let loaded := Log.Event.catalogLoaded catalogFile catalog.entries.length catalog.version
    let outcome := compileText t catalog (.int t.sleepSeconds) options.description options.title
    let o : Outcome := { events := loaded :: outcome.events }
    match outcome.result with
    | .error (.invalid errors) => o.fail "Blueprint rejected" errors
    | .error (.refused r) => o.crash (.refused r)
    | .error (.fault f) => o.crash (.fault f)
    | .ok c => deliver o c options.target

inductive FileContent where
  | missing
  | bytes
  | text (text : String)
  deriving Repr, DecidableEq

def FileContent.ofFile : Option ByteArray → FileContent
  | none => .missing
  | some content =>
    match String.fromUTF8? content with
    | some string => .text string
    | none => .bytes

def FileContent.text? : FileContent → Option String
  | .text content => some content
  | _ => none

def validMessage (name : Text) (b : Blueprint) : Text :=
  "[green]✓[/green] " ++ plain name ++ ": " ++ toString b.nodes.length ++ " modules, " ++
    toString b.connections.length ++ " connections"

def validateDocument (path : String) (document : Json) : Outcome :=
  match Blueprint.ofDocument document with
  | .error m => Outcome.fail {} "Malformed blueprint" [m.message]
  | .ok b =>
    match b.errors with
    | .error f => Outcome.crash {} (.fault f)
    | .ok [] =>
      match b.name.orElse (.string (fileName path)) with
      | .string name => Outcome.say {} [validMessage name b]
      | v => Outcome.crash {} (.fault (.notText v.kind))
    | .ok errors => Outcome.fail {} "Blueprint is invalid" errors

def validate (path : String) : FileContent → Outcome
  | .missing => unreadable
  | .bytes => Outcome.crash {} .undecodable
  | .text text =>
    match Json.ofText text with
    | .error .malformed => unreadable
    | .error (.excess f) => Outcome.crash {} (.fault f)
    | .ok document => validateDocument path document
where
  unreadable : Outcome :=
    Outcome.fail {} ("Cannot read " ++ path) []

end Automation.Console
