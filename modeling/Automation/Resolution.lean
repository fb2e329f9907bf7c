import Automation.Catalog.Basic
import Automation.Choice.Action
import Automation.Log

/-!
This module contains the modules that clauses stand for. Every text has a module: where no service
is named, or none that can do it, a general module stands in, which is logged.
-/

namespace Automation

structure Resolution where
  moduleType : String
  version : Int
  parameters : Fields
  service : Option Service
  isFallback : Bool
  deriving Repr, DecidableEq

namespace Resolution

def of (catalog : Catalog) (choice : Choice) (service : Option Service) (isFallback : Bool) :
    Resolution :=
  { moduleType := choice.moduleType
    version := catalog.versionOf choice.moduleType
    parameters := choice.parameters
    service
    isFallback }

end Resolution

/-- The way to a resolution, with what was logged on it. -/
structure Resolved where
  resolution : Resolution
  events : List Log.Event
  deriving Repr, DecidableEq

namespace Service

def label : Option Service → Json
  | some s => .string s.name
  | none => .null

end Service

namespace Catalog

def resolveTrigger (catalog : Catalog) (clause : Option String) : Resolved :=
  let text := toLowerCase (clause.getD "")
  let service := if text.isEmpty then none else Service.detect? text
  match service.bind (·.trigger? text) with
  | some choice => { resolution := .of catalog choice service false, events := [] }
  | none =>
    { resolution := .of catalog Choice.fallbackTrigger service true
      events := [.fallback .trigger (Service.label service) Choice.fallbackTriggerType] }

def resolveAction (catalog : Catalog) (sleepSeconds : Json) (clause : String) : Resolved :=
  let text := toLowerCase clause
  let service := Service.detect? text
  match service.map (·.action text) with
  | some choice => { resolution := .of catalog choice service false, events := [] }
  | none =>
    let choice := Choice.fallbackAction sleepSeconds text
    { resolution := .of catalog choice service true
      events := [.fallback .action (Service.label service) choice.moduleType] }

end Catalog

namespace Resolution

def trigger (catalog : Catalog) (clause : Option String) : Resolution :=
  (catalog.resolveTrigger clause).resolution

def action (catalog : Catalog) (sleepSeconds : Json) (clause : String) : Resolution :=
  (catalog.resolveAction sleepSeconds clause).resolution

end Resolution

end Automation
