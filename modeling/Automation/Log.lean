import Automation.Json.Basic

/-!
This module contains the events that composing a blueprint is logged by, and the levels from which
events are shown. All events have the level of information.
-/

namespace Automation

namespace Log

inductive Role where
  | trigger
  | action
  deriving Repr, DecidableEq

def Role.name : Role → String
  | trigger => "trigger"
  | action => "action"

inductive Event where
  | catalogLoaded (file : String) (entries : Nat) (version : Text)
  | fallback (role : Role) (service : Json) (moduleType : String)
  | rejected (name : Json) (errors : List Text)
  | compiled (name : Json) (modules connections fallbacks : Nat)
  deriving Repr, DecidableEq

namespace Event

def content : Event → String × Fields
  | catalogLoaded file entries version =>
    ("catalog.loaded",
      [("path", .string file), ("entries", .int entries), ("version", .string version)])
  | fallback role service moduleType =>
    ("resolver.fallback",
      [("stage", .string role.name), ("service", service), ("module", .string moduleType)])
  | rejected name errors =>
    ("assembler.rejected", [("name", name), ("errors", .array (errors.map .string))])
  | compiled name modules connections fallbacks =>
    ("compiler.compiled",
      [("name", name), ("modules", .int modules), ("connections", .int connections),
        ("fallbacks", .int fallbacks)])

def toJson (e : Event) : Json :=
  .object (("event", .string e.content.1) :: ("level", "info") :: e.content.2)

end Event

def eventSeverity : Nat := 20

def levels : List (String × Nat) := [
  ("CRITICAL", 50),
  ("FATAL", 50),
  ("ERROR", 40),
  ("WARNING", 30),
  ("WARN", 30),
  ("INFO", 20),
  ("DEBUG", 10),
  ("NOTSET", 0)
]

def capital (c : Char) : Char :=
  if c = 'ı' then 'I' else if c = 'ſ' then 'S' else c.toUpper

def severityOf (level : String) : Nat :=
  -- An unknown level shows what information does.
  (levels.lookup (String.ofList (level.toList.map capital))).getD eventSeverity

def shown (level : String) (events : List Event) : List Event :=
  if severityOf level ≤ eventSeverity then events else []

end Log

end Automation
