import Automation.Description.Clause
import Automation.Description.Schedule

/-!
This module contains all that a description says: its trigger, actions, conditions and schedule. A
description without any word character says nothing.
-/

namespace Automation

structure Extraction where
  trigger : Option Clause
  actions : List Clause
  conditions : List Clause
  schedule : Option Schedule
  isBlank : Bool
  deriving Repr, DecidableEq

namespace Extraction

def blank : Extraction :=
  { trigger := none, actions := [], conditions := [], schedule := none, isBlank := true }

end Extraction

namespace Description

def isBlank (text : String) : Bool :=
  !text.toList.any Text.isWord

def extract (text : String) : Except Text.NumeralFault Extraction :=
  if isBlank text then
    .ok .blank
  else do
    let normalText := normalize text
    let trigger := trigger? normalText
    return {
      trigger
      actions := actions normalText trigger.isSome
      conditions := conditions normalText
      schedule := ← schedule normalText
      isBlank := false
    }

end Description

end Automation
