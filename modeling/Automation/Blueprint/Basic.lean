import Automation.Json.Coercion
import Automation.Route

/-!
This module contains blueprints: the modules of an automation, how they are connected, and what goes
with them. What a document may hold in any shape is kept as it is; a field that holds null is left
out of the document.
-/

namespace Automation

/-- A module of an automation; it is a router if it has routes, be they none. -/
structure Node where
  id : Int
  moduleType : Json
  version : Json
  parameters : Fields
  mapper : Json
  metadata : Json
  routes : Option (List Route)
  deriving Repr, DecidableEq

structure Connection where
  source : Json
  target : Json
  route : Json
  deriving Repr, DecidableEq

structure Blueprint where
  name : Json
  description : Json
  version : Json
  nodes : List Node
  connections : List Connection
  scheduling : Json
  variableDefs : List Json
  dataStores : List Json
  settings : Json
  deriving Repr, DecidableEq

def optionalField (name : String) (v : Json) : Fields :=
  match v with
  | .null => []
  | v => [(name, v)]

namespace Node

def isRouter (n : Node) : Bool :=
  n.routes.isSome

def routerType : String := "flow.router"

def toFields (n : Node) : Fields :=
  let head : Fields := [
    ("id", .int n.id),
    ("module", n.moduleType),
    ("version", n.version),
    ("parameters", .object n.parameters)
  ]
  let routes : Fields :=
    match n.routes with
    | some routes => [("routes", .array (routes.map Route.toJson))]
    | none => []
  head ++ optionalField "mapper" n.mapper ++ optionalField "metadata" n.metadata ++ routes

def toJson (n : Node) : Json :=
  .object n.toFields

end Node

namespace Connection

def toJson (c : Connection) : Json :=
  let ends : Fields := [("source", c.source), ("target", c.target)]
  .object (ends ++ optionalField "route" c.route)

end Connection

namespace Blueprint

def formatVersion : Int := 2

def ids (b : Blueprint) : List Int :=
  b.nodes.map (·.id)

def node? (b : Blueprint) (id : Json) : Option Node :=
  b.nodes.find? fun n => Json.same (.int n.id) id

def objectField (name : String) (v : Json) : Except Fault Fields :=
  match v with
  | .null => .ok []
  | v => do return [(name, .object (← v.toFields))]

def listField (name : String) (items : List Json) : Fields :=
  if items.isEmpty then [] else [(name, .array items)]

def toJson (b : Blueprint) : Except Fault Json := do
  let metadata : Fields := [
    -- A schedule or settings in no shape of an object have no document.
    ("version", b.version),
    ("name", b.name),
    ("description", b.description)
  ]
  let scheduling ← objectField "scheduling" b.scheduling
  let settings ← objectField "settings" b.settings
  let head : Fields := [("metadata", .object metadata)]
  let flow : Fields := [
    ("modules", .array (b.nodes.map Node.toJson)),
    ("connections", .array (b.connections.map Connection.toJson))
  ]
  return .object (head ++ scheduling ++ flow ++ listField "variables" b.variableDefs ++
    listField "dataStores" b.dataStores ++ settings)

end Blueprint

end Automation
