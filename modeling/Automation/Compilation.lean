import Automation.Assembly
import Automation.Blueprint.Report
import Automation.Description.Extraction
import Automation.Description.Name
import Automation.Log
import Automation.Settings.Tuning

/-!
This module contains the way from a description to a blueprint: its clauses are extracted, each is
resolved to a module, and the modules are assembled. Each outcome comes with the events that were
logged on the way.
-/

namespace Automation

structure Compilation where
  blueprint : Blueprint
  extraction : Extraction
  resolutions : List Resolution
  deriving Repr, DecidableEq

namespace Compilation

inductive Failure where
  | invalid (errors : List Text)
  | refused (refusal : Refusal)
  | fault (fault : Fault)
  deriving Repr, DecidableEq

namespace Failure

def message : Failure → Text
  | invalid errors => invalidMessage errors
  | refused r => r.message
  | fault f => f.message

def ofRefusal : Refusal → Failure
  | .invalid errors => .invalid errors
  | .fault f => .fault f
  | r => .refused r

end Failure

structure Outcome where
  events : List Log.Event
  result : Except Failure Compilation
  deriving Repr

def descriptionFault (description name : Json) : Fault :=
  if !description.isVoid then .notText description.kind
  else if name.isVoid then .lacksOperation description.kind "split"
  else .lacksOperation description.kind "strip"

def blueprintName (t : Tuning) (description : String) (name : Json) : Json :=
  name.orElse (.string (Description.deriveName description (some t.nameWordLimit) t.defaultName))

def blueprintDescription (t : Tuning) (description : String) : Text :=
  let stripped := String.ofList (Text.strip description.toList)
  if stripped.isEmpty then t.defaultDescription else stripped

def resolved (catalog : Catalog) (sleepSeconds : Json) (e : Extraction) : List Resolved :=
  if e.isBlank then []
  else
    catalog.resolveTrigger (e.trigger.map (·.text)) ::
      e.actions.map fun action => catalog.resolveAction sleepSeconds action.text

def proceed (step : Assembly.Step α) : Except Refusal Assembly :=
  step.2.map fun _ => step.1

def appendConditions (t : Tuning) (catalog : Catalog) (e : Extraction) (a : Assembly) :
    Except Refusal Assembly :=
  if e.conditions.isEmpty then
    .ok a
  else
    let routes := Route.ofConditions t.routeFieldSource (e.conditions.map (·.text))
    proceed (a.appendRouter routes (.int (catalog.versionOf Node.routerType)))

def appendSchedule (e : Extraction) (a : Assembly) : Except Refusal Assembly :=
  match e.schedule with
  | none => .ok a
  | some schedule =>
    proceed (a.appendAuxiliary "schedule" (.object [("interval", .int schedule.interval)]))

def assemble (t : Tuning) (catalog : Catalog) (description : String) (name : Json) (e : Extraction)
    (resolutions : List Resolution) : Except Refusal Assembly := do
  let a := Assembly.start (.int t.layoutSpacing) (.string t.defaultName)
    (.string t.defaultDescription)
  let a ← proceed (a.setMetadata (blueprintName t description name)
    (.string (blueprintDescription t description)))
  let a ← resolutions.foldlM (fun a r => proceed (a.appendResolution r)) a
  let a ← appendConditions t catalog e a
  appendSchedule e a

def finish (e : Extraction) (resolutions : List Resolution) (events : List Log.Event)
    (a : Assembly) : Outcome :=
  match a.build.2 with
  | .ok blueprint =>
    let fallbacks := (resolutions.filter (·.isFallback)).length
    { events := events ++
        [.compiled blueprint.name blueprint.nodes.length blueprint.connections.length fallbacks]
      result := .ok { blueprint, extraction := e, resolutions } }
  | .error (.invalid errors) =>
    { events := events ++ [.rejected a.name errors], result := .error (.invalid errors) }
  | .error r => { events, result := .error (.ofRefusal r) }

end Compilation

def compileText (t : Tuning) (catalog : Catalog) (sleepSeconds : Json) (description : String)
    (name : Json) : Compilation.Outcome :=
  match Description.extract description with
  | .error .malformed => { events := [], result := .error (.fault (.badNumeral description)) }
  | .error (.tooLong digits) => { events := [], result := .error (.fault (.longNumeral digits)) }
  | .ok e =>
    let resolved := Compilation.resolved catalog sleepSeconds e
    let resolutions := resolved.map (·.resolution)
    let events := resolved.flatMap (·.events)
    match Compilation.assemble t catalog description name e resolutions with
    | .ok a => Compilation.finish e resolutions events a
    | .error r => { events, result := .error (.ofRefusal r) }

def compile (t : Tuning) (catalog : Catalog) (sleepSeconds description name : Json) :
    Compilation.Outcome :=
  match description with
  | .string s =>
    match s.encoded with
    | .ok s => compileText t catalog sleepSeconds s name
    | .error f => { events := [], result := .error (.fault f) }
  | v => { events := [], result := .error (.fault (Compilation.descriptionFault v name)) }

end Automation
