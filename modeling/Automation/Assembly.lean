import Automation.Blueprint.Validation
import Automation.Resolution

/-!
This module contains the assembly of blueprints step by step. A module that is appended gets the
next id and is connected from the module before it, unless that one is a router. The first build
decides what the assembly comes to; after it nothing is changed any more.
-/

namespace Automation

inductive Stage where
  | empty
  | accumulating
  | validated (blueprint : Blueprint)
  | rejected (errors : List Text)
  deriving Repr, DecidableEq

namespace Stage

def name : Stage → String
  | empty => "Empty"
  | accumulating => "Accumulating"
  | validated _ => "Validated"
  | rejected _ => "Rejected"

def isFinal : Stage → Bool
  | validated _ => true
  | rejected _ => true
  | _ => false

end Stage

inductive Refusal where
  | closed (stage : String)
  | noRoutes
  | unnamedVariable
  | unknownAuxiliary (kind : Json)
  | unknownModule (id : Json)
  | invalid (errors : List Text)
  | fault (fault : Fault)
  deriving Repr, DecidableEq

def invalidMessage (errors : List Text) : Text :=
  "Invalid blueprint: " ++ Text.intercalate ", " errors

namespace Refusal

def message : Refusal → Text
  | closed stage => "Blueprint is " ++ stage ++ "; no further changes are accepted"
  | noRoutes => "A router requires at least one route"
  | unnamedVariable => "A variable requires a name"
  | unknownAuxiliary kind =>
    "Unknown auxiliary kind '" ++ kind.text ++
      "'; expected one of variable, schedule, settings, data_store"
  | unknownModule id => "Unknown module id " ++ id.text
  | invalid errors => invalidMessage errors
  | fault f => f.message

end Refusal

structure Assembly where
  layoutSpacing : Json
  name : Json
  description : Json
  nodes : List Node
  connections : List Connection
  variableDefs : List Json
  dataStores : List Json
  scheduling : Json
  settings : Json
  /-- The id of the next module; a refused module uses it up. -/
  nextId : Nat
  stage : Stage
  deriving Repr, DecidableEq

namespace Assembly

def defaultSpacing : Json := 300

def defaultName : String := "Generated Scenario"

def defaultDescription : String := "Created by blueprint composer"

def start (layoutSpacing name description : Json) : Assembly :=
  { layoutSpacing, name, description, nodes := [], connections := [], variableDefs := []
    dataStores := [], scheduling := .null, settings := .null, nextId := 1, stage := .empty }

def blueprint (a : Assembly) : Blueprint :=
  { name := a.name
    description := a.description
    version := .int Blueprint.formatVersion
    nodes := a.nodes
    connections := a.connections
    scheduling := a.scheduling
    variableDefs := a.variableDefs
    dataStores := a.dataStores
    settings := a.settings }

/-- What a step leaves behind and what it answers. A refused step may leave a change behind. -/
abbrev Step (α : Type) := Assembly × Except Refusal α

def whenOpen (a : Assembly) (step : Assembly → Step α) : Step α :=
  if a.stage.isFinal then (a, .error (.closed a.stage.name)) else step a

def orRefuse (a : Assembly) (r : Except Fault β) (step : β → Step α) : Step α :=
  match r with
  | .ok b => step b
  | .error f => (a, .error (.fault f))

def touch (a : Assembly) : Assembly :=
  { a with stage := .accumulating }

def setMetadata (a : Assembly) (name description : Json) : Step Unit :=
  a.whenOpen fun a => ({ a with name, description }, .ok ())

def placement (spacing : Json) (id : Nat) : Except Fault Json := do
  let x ← spacing.times (id - 1)
  return .object [("designer", .object [("x", x), ("y", 0)])]

def link (nodes : List Node) (id : Nat) : List Connection :=
  match nodes.getLast? with
  | some last =>
    if last.isRouter then [] else [{ source := .int last.id, target := .int id, route := .null }]
  | none => []

def appendNode (a : Assembly) (make : Nat → Except Fault Node) : Step Nat :=
  let id := a.nextId
  let a := { a with nextId := id + 1 }
  a.orRefuse (make id) fun node =>
    a.orRefuse (placement a.layoutSpacing id) fun metadata =>
      let a := { a with
        connections := a.connections ++ link a.nodes id
        nodes := a.nodes ++ [{ node with metadata }] }
      (a.touch, .ok id)

def objectOrNull : Json → Except Fault Json
  | .null => .ok .null
  | v => do return .object (← v.toFields)

def appendModule (a : Assembly) (moduleType version parameters mapper : Json) : Step Nat :=
  a.whenOpen fun a => a.appendNode fun id => do
    let parameters ← (parameters.orElse (.object [])).toFields
    let mapper ← objectOrNull mapper
    return { id, moduleType, version, parameters, mapper, metadata := .null, routes := none }

def appendResolution (a : Assembly) (r : Resolution) : Step Nat :=
  a.appendModule (.string r.moduleType) (.int r.version) (.object r.parameters) .null

def appendRouter (a : Assembly) (routes : List Route) (version : Json) : Step Nat :=
  a.whenOpen fun a =>
    if routes.isEmpty then
      (a, .error .noRoutes)
    else
      a.appendNode fun id => .ok
        { id
          moduleType := .string Node.routerType
          version
          parameters := []
          mapper := .null
          metadata := .null
          routes := some routes }

/-- The routes are taken one by one from what is given for them, if there are any to be taken. -/
def appendRouterOf (a : Assembly) (given : Except Fault (List Route)) (version : Json) : Step Nat :=
  match given with
  | .ok routes => a.appendRouter routes version
  | .error f => a.whenOpen fun a => (a, .error (.fault f))

def addVariable (a : Assembly) (data : Json) : Step Unit :=
  a.orRefuse (data.contains "name") fun named =>
    if named then
      a.orRefuse (do return (← data.field "name", ← data.asObject)) fun (name, fields) =>
        let entry : Json := .object [("name", name), ("value", fields.getD "value" .null)]
        (touch { a with variableDefs := a.variableDefs ++ [entry] }, .ok ())
    else
      (a, .error .unnamedVariable)

def setSchedule (a : Assembly) (data : Json) : Step Unit :=
  a.orRefuse (data.field "interval" >>= Json.toInteger) fun interval =>
    (touch { a with scheduling := .object [("interval", .int interval)] }, .ok ())

def mergeInto (old data : Json) : Except Fault Json := do
  let fields ← (old.orElse (.object [])).asMapping
  return .object (fields.merge (← data.asMapping))

def mergeSettings (a : Assembly) (data : Json) : Step Unit :=
  a.orRefuse (mergeInto a.settings data) fun settings =>
    (touch { a with settings }, .ok ())

def addDataStore (a : Assembly) (data : Json) : Step Unit :=
  a.orRefuse data.toFields fun fields =>
    (touch { a with dataStores := a.dataStores ++ [.object fields] }, .ok ())

def appendAuxiliary (a : Assembly) (kind data : Json) : Step Unit :=
  a.whenOpen fun a =>
    match kind with
    | .string "variable" => a.addVariable data
    | .string "schedule" => a.setSchedule data
    | .string "settings" => a.mergeSettings data
    | .string "data_store" => a.addDataStore data
    | kind => (a, .error (.unknownAuxiliary kind))

def connect (a : Assembly) (source target route : Json) : Step Unit :=
  -- Whether the ends exist shows when the blueprint is built.
  a.whenOpen fun a =>
    (touch { a with connections := a.connections ++ [{ source, target, route }] }, .ok ())

def modifyNode (id : Json) (f : Node → Node) : List Node → List Node
  | [] => []
  | n :: ns => if Json.same (.int n.id) id then f n :: ns else n :: modifyNode id f ns

def decorateSide (a : Assembly) (id old data : Json) (set : Node → Json → Node) : Step Unit :=
  match data with
  | .null => (a, .ok ())
  | data =>
    a.orRefuse (mergeInto old data) fun side =>
      ({ a with nodes := modifyNode id (set · side) a.nodes }, .ok ())

def decorate (a : Assembly) (id mapper metadata : Json) : Step Unit :=
  a.whenOpen fun a =>
    match a.blueprint.node? id with
    | none => (a, .error (.unknownModule id))
    | some node =>
      match a.decorateSide id node.mapper mapper fun n mapper => { n with mapper } with
      | (a, .error e) => (a, .error e)
      | (a, .ok ()) =>
        a.decorateSide id node.metadata metadata fun n metadata => { n with metadata }

def errors (a : Assembly) : Except Fault (List Text) :=
  a.blueprint.errors

def build (a : Assembly) : Step Blueprint :=
  -- Only the first build checks the blueprint.
  match a.stage with
  | .validated blueprint => (a, .ok blueprint)
  | .rejected errors => (a, .error (.invalid errors))
  | _ =>
    a.orRefuse a.errors fun errors =>
      if errors.isEmpty then
        ({ a with stage := .validated a.blueprint }, .ok a.blueprint)
      else
        ({ a with stage := .rejected errors }, .error (.invalid errors))

end Assembly

end Automation
