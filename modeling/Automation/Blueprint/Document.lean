import Automation.Blueprint.Basic

/-!
This module contains the reading of blueprints from documents. Missing fields have defaults; ids and
the ends of connections must be whole numbers, and routes must have the shape in which they are
written.
-/

namespace Automation

inductive Blueprint.Malformed where
  | fault (fault : Fault)
  | notModuleId (role : String) (value : Json)
  | routesNotList
  | routeNotObject
  | filterNotObject
  | conditionsNotLists
  | conditionNotObject
  deriving Repr, DecidableEq

namespace Blueprint

namespace Malformed

def message : Malformed → String
  | fault f => f.message
  | notModuleId role value =>
    role ++ " must be an integer module id (got " ++ value.quoted ++ ")"
  | routesNotList => "router routes must be a list"
  | routeNotObject => "each route must be an object"
  | filterNotObject => "route filter must be an object"
  | conditionsNotLists => "route filter conditions must be a list of lists"
  | conditionNotObject => "route filter condition must be an object"

end Malformed

def checked (r : Except Fault α) : Except Malformed α :=
  r.mapError .fault

def moduleId (role : String) : Json → Except Malformed Int
  | .int n => .ok n
  | v => .error (.notModuleId role v)

def asObjectOr (otherwise : Malformed) : Json → Except Malformed Fields
  | .object fields => .ok fields
  | _ => .error otherwise

def readGroups (filter : Fields) : Except Malformed (List (List Json)) :=
  -- A filter without groups has one empty condition.
  match (filter.getD "conditions" .null).orElse (.array [.array [.object []]]) with
  | .array groups =>
    groups.mapM fun
      | .array group => .ok group
      | _ => .error .conditionsNotLists
  | _ => .error .conditionsNotLists

def firstCondition : List (List Json) → Except Malformed Fields
  | (.object fields :: _) :: _ => .ok fields
  | (_ :: _) :: _ => .error .conditionNotObject
  | _ => .ok []

def readFilter (label : Json) (filter : Fields) : Except Malformed RouteFilter := do
  let condition ← firstCondition (← readGroups filter)
  return {
    name := filter.getD "name" label
    field := .string (condition.getD "a" "").text
    operator := .string (condition.getD "o" Route.defaultOperator).text
    value := .string (condition.getD "b" "").text
  }

def readLabel (position : Nat) (route : Fields) : Json :=
  (route.getD "label" .null).orElse <|
    (route.getD "name" .null).orElse (.string (Route.labelAt position))

def readRoute (position : Nat) (v : Json) : Except Malformed Route := do
  let route ← asObjectOr .routeNotObject v
  let filter ← asObjectOr .filterNotObject ((route.getD "filter" .null).orElse (.object []))
  let label := readLabel position route
  return {
    id := route.getD "id" (.int position)
    label
    filter := ← readFilter label filter
  }

def readRoutes (position : Nat) : List Json → Except Malformed (List Route)
  | [] => .ok []
  | v :: vs => do
    let route ← readRoute position v
    return route :: (← readRoutes (position + 1) vs)

def readNode (v : Json) : Except Malformed Node := do
  let fields ← checked v.asObject
  let id ← moduleId "module id" (fields.getD "id" .null)
  let parameters ← checked ((fields.getD "parameters" .null).orElse (.object [])).toFields
  let routes ←
    match fields.get? "routes" with
    | none => pure none
    | some (.array routes) => do pure (some (← readRoutes 1 routes))
    | some _ => throw .routesNotList
  return {
    id
    moduleType := fields.getD "module" ""
    version := fields.getD "version" 1
    parameters
    mapper := fields.getD "mapper" .null
    metadata := fields.getD "metadata" .null
    routes
  }

def readConnection (v : Json) : Except Malformed Connection := do
  let fields ← checked v.asObject
  let source ← moduleId "connection source" (fields.getD "source" .null)
  let target ← moduleId "connection target" (fields.getD "target" .null)
  return { source := .int source, target := .int target, route := fields.getD "route" .null }

def readList (fields : Fields) (name : String) : Except Malformed (List Json) :=
  checked (fields.getD name (.array [])).asList

def ofDocument (document : Json) : Except Malformed Blueprint := do
  let fields ← checked document.asObject
  let nodes ← (← readList fields "modules").mapM readNode
  let connections ← (← readList fields "connections").mapM readConnection
  let metadata ← checked ((fields.getD "metadata" .null).orElse (.object [])).asObject
  let variableDefs ← readList fields "variables"
  let dataStores ← readList fields "dataStores"
  return {
    name := metadata.getD "name" ""
    description := metadata.getD "description" ""
    version := metadata.getD "version" (.int formatVersion)
    nodes
    connections
    scheduling := fields.getD "scheduling" .null
    variableDefs
    dataStores
    settings := fields.getD "settings" .null
  }

end Blueprint

end Automation
