import Automation.Description.Normal
import Automation.Description.Phrase
import Automation.Text.Numeral

/-!
This module contains the schedules that descriptions ask for, such as "every 15 minutes", "every
day" or "weekly".
-/

namespace Automation

structure Schedule where
  interval : Nat
  deriving Repr, DecidableEq

namespace Description

def timeUnits : List (String × Nat) := [
  ("minute", 60),
  ("hour", 3600),
  ("day", 86400),
  ("week", 604800)
]

def scheduleWords : List (String × Nat) := [
  -- An earlier word goes before a later one.
  ("hourly", 3600),
  ("daily", 86400),
  ("weekly", 604800)
]

def countedPhrase? (cs : List Char) : Option (List Char × Nat) :=
  (after? "every ".toList cs).bind fun cs =>
    let digits := cs.takeWhile Text.isDigit
    if digits.isEmpty then
      none
    else
      (after? [' '] (cs.dropWhile Text.isDigit)).bind fun cs =>
        timeUnits.findSome? fun (unit, seconds) =>
          (afterAnyWord? [(unit ++ "s").toList, unit.toList] cs).map fun _ => (digits, seconds)

def uncountedPhrase? (cs : List Char) : Option Nat :=
  timeUnits.findSome? fun (unit, seconds) =>
    (afterWord? ("every " ++ unit).toList cs).map fun _ => seconds

def plainSchedule? (cs : List Char) : Option Schedule :=
  let word? := scheduleWords.findSome? fun (word, seconds) =>
    (search (afterWord? word.toList) cs).map fun _ => seconds
  ((search uncountedPhrase? cs).or word?).map fun seconds => { interval := seconds }

def scheduleOf (cs : List Char) : Except Text.NumeralFault (Option Schedule) :=
  -- A number of zero asks for no schedule.
  match search countedPhrase? cs with
  | some (digits, seconds) =>
    if digits.length > Text.maxDigits then
      .error (.tooLong digits.length)
    else
      let interval := Text.digitsValue digits * seconds
      if interval = 0 then .ok (plainSchedule? cs) else .ok (some { interval })
  | none => .ok (plainSchedule? cs)

def schedule (text : String) : Except Text.NumeralFault (Option Schedule) :=
  scheduleOf (normal text.toList)

end Description

end Automation
