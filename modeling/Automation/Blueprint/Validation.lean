import Automation.Blueprint.Basic

/-!
This module contains the check of blueprints: there is a module, no id occurs twice, and every
connection has its ends among the modules.
-/

namespace Automation

namespace Blueprint

inductive Defect where
  | noModules
  | duplicateIds (ids : List Int)
  | danglingConnection (source target : Json)
  deriving Repr, DecidableEq

namespace Defect

def message : Defect → Text
  | noModules => "Blueprint must have at least one module"
  | duplicateIds ids => "Duplicate module IDs found: " ++ ", ".intercalate (ids.map toString)
  | danglingConnection source target =>
    "Invalid connection: " ++ source.text ++ " -> " ++ target.text

end Defect

def duplicates (ids : List Int) : List Int :=
  (ids.eraseDups.filter fun id => 1 < ids.count id).mergeSort (· ≤ ·)

def isKnown (ids : List Int) (v : Json) : Except Fault Bool := do
  -- A value that cannot be a key is refused.
  let key ← v.asKey
  return ids.any fun id => Json.same (.int id) key

def isDangling (ids : List Int) (c : Connection) : Except Fault Bool := do
  -- The target counts only where the source is known.
  if ← isKnown ids c.source then
    return !(← isKnown ids c.target)
  else
    return true

def danglingConnections (ids : List Int) : List Connection → Except Fault (List Defect)
  | [] => .ok []
  | c :: cs => do
    let dangling ← isDangling ids c
    let defects ← danglingConnections ids cs
    return if dangling then .danglingConnection c.source c.target :: defects else defects

def defects (b : Blueprint) : Except Fault (List Defect) := do
  let dangling ← danglingConnections b.ids b.connections
  let repeated := duplicates b.ids
  return (if b.nodes.isEmpty then [.noModules] else []) ++
    (if repeated.isEmpty then [] else [.duplicateIds repeated]) ++ dangling

def errors (b : Blueprint) : Except Fault (List Text) := do
  return (← b.defects).map Defect.message

end Blueprint

end Automation
