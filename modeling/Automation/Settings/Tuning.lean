import Automation.Json.Coercion
import Automation.Settings.Numeral

/-!
This module contains the tuning of the composer, and how it is read from loosely typed fields. All
fields that are wrong are reported, in the order in which they are declared.
-/

namespace Automation

structure Tuning where
  layoutSpacing : Int := 300
  defaultName : Text := "Generated Scenario"
  defaultDescription : Text := "Created by blueprint composer"
  nameWordLimit : Int := 5
  sleepSeconds : Int := 5
  routeFieldSource : Text := "previousModule"
  maxDescriptionChars : Int := 20000
  deriving Repr, DecidableEq

namespace Settings

inductive Wrong where
  | tooSmall
  | unreadableNumber
  | overlongNumber
  | fractionalNumber
  | infiniteNumber
  | notNumber
  | notText
  | brokenText
  | notGroup
  deriving Repr, DecidableEq

def Wrong.name : Wrong → String
  | tooSmall => "greater_than_equal"
  | unreadableNumber => "int_parsing"
  | overlongNumber => "int_parsing_size"
  | fractionalNumber => "int_from_float"
  | infiniteNumber => "finite_number"
  | notNumber => "int_type"
  | notText => "string_type"
  | brokenText => "string_unicode"
  | notGroup => "model_type"

structure Detail where
  path : List String
  wrong : Wrong
  deriving Repr, DecidableEq

def maxWholeReal : Nat := twoTo 63

def ofNumeral : Text → Except Wrong Int
  | .whole s =>
    (readNumeral s).mapError fun
      | .malformed => .unreadableNumber
      | .overlong => .overlongNumber
  | .broken .. => .error .brokenText

def toNumber : Json → Except Wrong Int
  | .int n => .ok n
  | .bool b => .ok b.toInt
  | .real x =>
    match x.truncate? with
    | none => .error .infiniteNumber
    | some n =>
      if !x.isWhole then .error .fractionalNumber
      else if n.natAbs < maxWholeReal then .ok n
      else .error .overlongNumber
  | .string t => ofNumeral t
  | _ => .error .notNumber

def toText : Json → Except Wrong Text
  | .string t => .ok t
  | _ => .error .notText

def atLeast (bound : Int) (v : Json) : Except Wrong Int := do
  let n ← toNumber v
  if n < bound then throw .tooSmall else return n

def toTextOrNull : Json → Except Wrong (Option Text)
  | .null => .ok none
  | v => do return some (← toText v)

def setting (path : List String) (fields : Fields) (name : String) (default : α)
    (read : Json → Except Wrong α) : α × List Detail :=
  match fields.get? name with
  | none => (default, [])
  | some v =>
    match read v with
    | .ok a => (a, [])
    | .error wrong => (default, [⟨path ++ [name], wrong⟩])

def readTuning (path : List String) (fields : Fields) : Tuning × List Detail :=
  -- Unknown fields are passed over.
  let base : Tuning := {}
  let (layoutSpacing, d₁) := setting path fields "layout_spacing" base.layoutSpacing (atLeast 0)
  let (defaultName, d₂) := setting path fields "default_name" base.defaultName toText
  let (defaultDescription, d₃) :=
    setting path fields "default_description" base.defaultDescription toText
  let (nameWordLimit, d₄) := setting path fields "name_word_limit" base.nameWordLimit (atLeast 1)
  let (sleepSeconds, d₅) := setting path fields "sleep_seconds" base.sleepSeconds (atLeast 0)
  let (routeFieldSource, d₆) :=
    setting path fields "route_field_source" base.routeFieldSource toText
  let (maxDescriptionChars, d₇) :=
    setting path fields "max_description_chars" base.maxDescriptionChars toNumber
  ({ layoutSpacing, defaultName, defaultDescription, nameWordLimit, sleepSeconds, routeFieldSource
     maxDescriptionChars },
    d₁ ++ d₂ ++ d₃ ++ d₄ ++ d₅ ++ d₆ ++ d₇)

def complete (r : α × List Detail) : Except (List Detail) α :=
  if r.2.isEmpty then .ok r.1 else .error r.2

end Settings

namespace Tuning

def ofFields (fields : Fields) : Except (List Settings.Detail) Tuning :=
  Settings.complete (Settings.readTuning [] fields)

def toJson (t : Tuning) : Json :=
  .object [
    ("layout_spacing", .int t.layoutSpacing),
    ("default_name", .string t.defaultName),
    ("default_description", .string t.defaultDescription),
    ("name_word_limit", .int t.nameWordLimit),
    ("sleep_seconds", .int t.sleepSeconds),
    ("route_field_source", .string t.routeFieldSource),
    ("max_description_chars", .int t.maxDescriptionChars)
  ]

end Tuning

end Automation
