import Automation.Console.Color

/-!
This module contains the styles of console messages. A style is written in words, in any order;
`normalize` gives all spellings of a style one name.
-/

namespace Automation.Console

/-- What a style sets; the last setting of an effect stands first. -/
structure Style where
  effects : List (String × Bool) := []
  color : Option (List Char) := none
  background : Option (List Char) := none
  link : Option (List Char) := none
  deriving Repr, DecidableEq

namespace Style

def effectNames : List String :=
  ["bold", "dim", "italic", "underline", "blink", "blink2", "reverse", "conceal", "strike",
    "underline2", "frame", "encircle", "overline"]

def effectAliases : List (String × String) := [
  ("b", "bold"),
  ("c", "conceal"),
  ("d", "dim"),
  ("i", "italic"),
  ("o", "overline"),
  ("r", "reverse"),
  ("s", "strike"),
  ("u", "underline"),
  ("uu", "underline2")
]

def effect? (word : List Char) : Option String :=
  let word := String.ofList word
  if effectNames.contains word then some word else effectAliases.lookup word

def set (s : Style) (effect : String) (value : Bool) : Style :=
  { s with effects := (effect, value) :: s.effects }

def addWords (s : Style) : List (List Char) → Except StyleFault Style
  | [] => return s
  | word :: words => do
    let name := Text.lower word
    if name = "on".toList then
      match words with
      | [] => throw .unknown
      | word :: words => addWords { s with background := some (← Color.read word) } words
    else if name = "not".toList then
      match words with
      | [] => throw .unknown
      | word :: words =>
        match effect? word with
        | some effect => addWords (s.set effect false) words
        | none => throw .unknown
    else if name = "link".toList then
      match words with
      | [] => throw .unknown
      | word :: words => addWords { s with link := some word } words
    else
      match effect? name with
      | some effect => addWords (s.set effect true) words
      | none => addWords { s with color := some (← Color.read word) } words

def read (cs : List Char) : Except StyleFault Style :=
  if Text.strip cs = "none".toList then return {} else addWords {} (Text.words cs)

def toWords (s : Style) : List (List Char) :=
  let effects := effectNames.flatMap fun name =>
    match s.effects.lookup name with
    | some true => [name.toList]
    | some false => ["not".toList, name.toList]
    | none => []
  let color := s.color.toList
  let background := (s.background.map fun name => ["on".toList, name]).getD []
  let link := (s.link.map fun target => ["link".toList, target]).getD []
  effects ++ color ++ background ++ link

def name (s : Style) : List Char :=
  if s.toWords.isEmpty then "none".toList else Text.joinWords s.toWords

def normalize (cs : List Char) : Except StyleFault (List Char) :=
  match read cs with
  | .ok s => .ok s.name
  | .error .unknown => .ok (Text.lower (Text.strip cs))
  | .error .badNumber => .error .badNumber

end Style

end Automation.Console
