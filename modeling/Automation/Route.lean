import Automation.Json.Literal
import Automation.Text.Blank
import Automation.Text.Case
import Automation.Text.Caseless

/-!
This module contains the routes of a router. The routes of a description come from its conditions: a
condition such as "total greater than 5" becomes a filter on a field, and any other a filter on the
status.
-/

namespace Automation

structure RouteFilter where
  name : Json
  field : Json
  operator : Json
  value : Json
  deriving Repr, DecidableEq

structure Route where
  id : Json
  label : Json
  filter : RouteFilter
  deriving Repr, DecidableEq

namespace RouteFilter

def toJson (f : RouteFilter) : Json :=
  .object [
    ("name", f.name),
    ("conditions", .array [.array [.object [
      ("a", f.field),
      ("b", f.value),
      ("o", f.operator)
    ]]])
  ]

end RouteFilter

namespace Route

def toJson (r : Route) : Json :=
  .object [("id", r.id), ("label", r.label), ("filter", r.filter.toJson)]

def operatorWords : List (String × String) := [
  ("is", "equal"),
  ("equals", "equal"),
  ("contains", "contains"),
  ("greater", "greater"),
  ("less", "less")
]

def defaultOperator : String := "equal"

def operatorOf (word : String) : String :=
  (operatorWords.lookup (toLowerCase word)).getD defaultOperator

def fillerWords : List String :=
  ["than", "to"]

def afterBlanks? : List Char → Option (List Char)
  | [] => none
  | c :: cs => if Text.isBlank c then some (Text.dropBlanks cs) else none

def comparison? (cs : List Char) : Option (List Char × List Char) :=
  (afterBlanks? cs).bind fun cs =>
    operatorWords.findSome? fun (word, _) =>
      (Text.takeCaseless word.toList cs).bind fun (found, rest) =>
        (afterBlanks? rest).bind fun value =>
          if value.isEmpty || value.contains '\n' then none else some (found, value)

def splitCondition? (cs : List Char) : Option (List Char × List Char × List Char) :=
  go [] cs
where
  -- `field` is what was read so far, backwards; a field is not empty and lies on one line.
  go (field : List Char) : List Char → Option (List Char × List Char × List Char)
    | [] => none
    | c :: cs =>
      match if field.isEmpty then none else comparison? (c :: cs) with
      | some (word, value) => some (field.reverse, word, value)
      | none => if c = '\n' then none else go (c :: field) cs

def dropFiller (value : List Char) : List Char :=
  (fillerWords.findSome? fun word =>
    (Text.takeCaseless word.toList value).bind fun (_, rest) => afterBlanks? rest).getD value

def fieldSlot (source : Text) (path : String) : Text :=
  "\x7b\x7b" ++ source ++ "." ++ path ++ "\x7d\x7d"

def filterOf (source : Text) (name : String) (condition : String) : RouteFilter :=
  match splitCondition? (Text.strip condition.toList) with
  | some (field, word, value) =>
    { name := .string name
      field := .string (fieldSlot source (String.ofList field))
      operator := .string (operatorOf (String.ofList word))
      value := .string (String.ofList (dropFiller value)) }
  | none =>
    { name := .string name
      field := .string (fieldSlot source "status")
      operator := .string defaultOperator
      value := .string "true" }

def labelAt (position : Nat) : String :=
  "Route " ++ toString position

def ofCondition (source : Text) (position : Nat) (condition : String) : Route :=
  { id := .int position
    label := .string (labelAt position)
    filter := filterOf source (labelAt position) condition }

def ofConditions (source : Text) (conditions : List String) : List Route :=
  conditions.mapIdx fun i condition => ofCondition source (i + 1) condition

end Route

end Automation
