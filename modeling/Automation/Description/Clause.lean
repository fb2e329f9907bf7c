import Automation.Description.Normal
import Automation.Description.Phrase
import Automation.Service

/-!
This module contains the clauses of a description: what starts the automation, what it does and
under which conditions. Clauses are found in the normal form of the description.
-/

namespace Automation

inductive Clause.Kind where
  | trigger
  | action
  | condition
  deriving Repr, DecidableEq

namespace Clause.Kind

def name : Clause.Kind → String
  | trigger => "trigger"
  | action => "action"
  | condition => "condition"

end Clause.Kind

structure Clause where
  kind : Clause.Kind
  text : String
  service : Option Service
  deriving Repr, DecidableEq

namespace Clause

def of (kind : Kind) (cs : List Char) : Clause :=
  let text := String.ofList cs
  { kind, text, service := Service.detect? text }

end Clause

namespace Description

structure TriggerForm where
  /-- Announcements; where one continues another, the longer stands first. -/
  leads : List (List Char)
  mayEnd : Bool
  deriving Repr, DecidableEq

def triggerForms : List TriggerForm := [
  -- The first form that fits anywhere is taken.
  ⟨["when ".toList], false⟩,
  ⟨["trigger by ", "trigger on ", "trigger when ",
    "triggered by ", "triggered on ", "triggered when "].map String.toList, true⟩,
  ⟨["start with ", "start when ", "start on ",
    "starts with ", "starts when ", "starts on "].map String.toList, true⟩,
  ⟨["watch for ", "watches for ", "watch ", "watches "].map String.toList, true⟩,
  ⟨["monitor ", "monitors "].map String.toList, true⟩
]

def clauseEnd? : List Char → Option (List Char)
  | ',' :: rest => some rest
  | cs => afterWord? " then".toList cs

def clauseEndOrEnd? : List Char → Option (List Char)
  | [] => some []
  | cs => clauseEnd? cs

namespace TriggerForm

def stop? (form : TriggerForm) (cs : List Char) : Option (List Char) :=
  if form.mayEnd then clauseEndOrEnd? cs else clauseEnd? cs

def at? (form : TriggerForm) (cs : List Char) : Option (List Char) :=
  form.leads.findSome? fun lead =>
    (after? lead cs).bind fun rest => (shortest form.stop? rest).map (·.1)

def find? (form : TriggerForm) (cs : List Char) : Option (List Char) :=
  (search form.at? cs).map Text.strip

end TriggerForm

def triggerSpan? (cs : List Char) : Option (List Char) :=
  triggerForms.findSome? (·.find? cs)

def trigger? (text : String) : Option Clause :=
  (triggerSpan? (normal text.toList)).map (Clause.of .trigger)

def connectives : List (List Char) :=
  [" then ".toList, " and ".toList, [',']]

def connectiveLength? (cs : List Char) : Option Nat :=
  (connectives.find? fun c => c.isPrefixOf cs).map (·.length)

def segments (cs : List Char) : List (List Char) :=
  go 0 [] cs
where
  -- `part` is the part read so far, backwards; `skip` characters of a connective are left.
  go (skip : Nat) (part : List Char) : List Char → List (List Char)
    | [] => [part.reverse]
    | c :: cs =>
      match skip with
      | skip + 1 => go skip part cs
      | 0 =>
        match connectiveLength? (c :: cs) with
        | some n => part.reverse :: go (n - 1) [] cs
        | none => go 0 (c :: part) cs

def isOuterMark (c : Char) : Bool :=
  " .;:!?".toList.contains c

def conditionWords : List (List Char) :=
  ["if".toList, "when".toList, "check".toList]

def opensCondition (cs : List Char) : Bool :=
  (afterAnyWord? conditionWords cs).isSome

def actionSpans (parts : List (List Char)) : List (List Char) :=
  (parts.map (Text.stripWhere isOuterMark)).filter fun part => !part.isEmpty && !opensCondition part

def actions (text : String) (hasTrigger : Bool) : List Clause :=
  let parts := segments (normal text.toList)
  (actionSpans (if hasTrigger then parts.drop 1 else parts)).map (Clause.of .action)

def actionsOf (text : String) (hasTrigger : Option Bool) : List Clause :=
  -- Where it is not said whether there is a trigger, the normal form of the text says it.
  actions text (hasTrigger.getD (trigger? (normalize text)).isSome)

def ifCondition? (cs : List Char) : Option (List Char × List Char) :=
  (after? "if ".toList cs).bind (shortest (afterWord? " then".toList))

def conditionVerbs : List (List Char) :=
  [" is".toList, " equals".toList, " contains".toList]

def whenCondition? (cs : List Char) : Option (List Char × List Char) :=
  (after? "when ".toList cs).bind (shortest (afterAnyWord? conditionVerbs))

def checkedCondition? (cs : List Char) : Option (List Char × List Char) :=
  -- A condition runs to the end of the text.
  ["check if ", "check whether ", "checks if ", "checks whether "].findSome? fun lead =>
    match after? lead.toList cs with
    | some (c :: rest) => some (c :: rest, [])
    | _ => none

def conditionSpans (cs : List Char) : List (List Char) :=
  ([ifCondition?, whenCondition?, checkedCondition?].flatMap (searchAll · cs)).map Text.strip

def conditions (text : String) : List Clause :=
  (conditionSpans (normal text.toList)).map (Clause.of .condition)

end Description

end Automation
