import Automation.Json.Basic
import Automation.Number.Shortest
import Automation.Text.Quoted

/-!
This module contains the text of values in messages and labels: texts are bare on their own and
quoted inside arrays and objects.
-/

namespace Automation.Json

mutual

def literal : Json → List Char
  | null => "None".toList
  | bool b => (if b then "True" else "False").toList
  | int n => (toString n).toList
  | real x => x.text
  | string t => Text.quote t
  | array xs => '[' :: literalItems xs ++ [']']
  | object fs => '\x7b' :: literalFields fs ++ ['\x7d']

def literalItems : List Json → List Char
  | [] => []
  | [x] => x.literal
  | x :: xs => x.literal ++ ',' :: ' ' :: literalItems xs

def literalFields : Fields → List Char
  | [] => []
  | [(k, x)] => Text.quote k ++ ':' :: ' ' :: x.literal
  | (k, x) :: fs => Text.quote k ++ ':' :: ' ' :: x.literal ++ ',' :: ' ' :: literalFields fs

end

def quoted (v : Json) : String :=
  String.ofList v.literal

def text : Json → Text
  | string t => t
  | v => v.quoted

theorem text_int (n : Int) : (int n).text = .whole (toString n) := by
  change Text.whole (String.ofList (toString n).toList) = _
  rw [String.ofList_toList]

end Automation.Json
