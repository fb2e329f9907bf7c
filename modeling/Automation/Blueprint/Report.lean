import Automation.Blueprint.Placeholder
import Automation.Resolution

/-!
This module contains the report on a composed blueprint: what it consists of, which modules stand in
for others and what is left to be filled in.
-/

namespace Automation

structure Fallback where
  moduleType : Json
  service : Json
  deriving Repr, DecidableEq

structure Report where
  blueprintId : String
  modules : Nat
  modulesByService : List (Text × Nat)
  connections : Nat
  routers : Nat
  routes : Nat
  chains : Nat
  isScheduled : Bool
  runtimeMs : Json
  fallbacks : List Fallback
  placeholders : List Text
  catalogVersion : Json
  deriving Repr, DecidableEq

def servicePart (moduleType : Text) : Text :=
  Text.ofGlyphs (moduleType.glyphs.takeWhile (· != .char '.'))

def countName : List (Text × Nat) → Text → List (Text × Nat)
  | [], name => [(name, 1)]
  | (k, n) :: counts, name =>
    if k = name then (k, n + 1) :: counts else (k, n) :: countName counts name

namespace Resolution

def serviceName (r : Resolution) : Json :=
  Service.label r.service

def fallbacks (resolutions : List Resolution) : List Fallback :=
  (resolutions.filter (·.isFallback)).map fun r =>
    { moduleType := .string r.moduleType, service := r.serviceName }

end Resolution

namespace Blueprint

def services (b : Blueprint) : Except Fault (List Text) :=
  b.nodes.mapM fun n => do return servicePart (← n.moduleType.asText "split")

def chainHeads (b : Blueprint) : List Int :=
  b.ids.eraseDups.filter fun id => !b.connections.any fun c => Json.same (.int id) c.target

def report (b : Blueprint) (blueprintId : String) (fallbacks : List Fallback)
    (catalogVersion : Json) (runtimeMs : Json) : Except Fault Report := do
  let services ← b.services
  return {
    blueprintId
    modules := b.nodes.length
    modulesByService := services.foldl countName []
    connections := b.connections.length
    routers := (b.nodes.filter (·.isRouter)).length
    routes := (b.nodes.flatMap fun n => n.routes.getD []).length
    chains := b.chainHeads.length
    isScheduled := b.scheduling != .null
    runtimeMs
    fallbacks
    placeholders := b.placeholders
    catalogVersion
  }

end Blueprint

namespace Report

def toJson (r : Report) : Json :=
  .object [
    ("blueprintId", .string r.blueprintId),
    ("summary", .object [
      ("modules", .int r.modules),
      ("modulesByService", .object (r.modulesByService.map fun (k, n) => (k, .int n))),
      ("connections", .int r.connections),
      ("routers", .int r.routers),
      ("routes", .int r.routes),
      ("chains", .int r.chains),
      ("scheduled", .bool r.isScheduled),
      ("runtimeMs", r.runtimeMs)
    ]),
    ("fallbacks", .array (r.fallbacks.map fun f =>
      .object [("module", f.moduleType), ("service", f.service)])),
    ("placeholders", .array (r.placeholders.map .string)),
    ("catalog", .object [("version", r.catalogVersion)])
  ]

end Report

end Automation
