import Automation.Description.Phrase
import Automation.Json.Basic
import Automation.Text.Search

/-!
This module contains what the choices of modules are made of: a module with its parameters, and
slots in parameters that are filled when the automation runs.
-/

namespace Automation

structure Choice where
  moduleType : String
  parameters : Fields
  deriving Repr, DecidableEq

def slot (path : String) : String :=
  "\x7b\x7b" ++ path ++ "\x7d\x7d"

def hasWord (text : String) (words : List String) : Bool :=
  (Description.search (Description.afterAnyWord? (words.map String.toList)) text.toList).isSome

end Automation
