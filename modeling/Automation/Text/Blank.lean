import Automation.Text.Range

/-!
This module contains blank characters and what is done with them: stripping the ends of a text,
cutting it into words and collapsing it to words that single spaces part.
-/

namespace Automation.Text

/-- The code points of blank characters (Unicode 14); the four separators below the space count. -/
def blankRanges : List (Nat × Nat) := [
  (0x9, 0xD), (0x1C, 0x20), (0x85, 0x85), (0xA0, 0xA0), (0x1680, 0x1680), (0x2000, 0x200A),
  (0x2028, 0x2029), (0x202F, 0x202F), (0x205F, 0x205F), (0x3000, 0x3000)]

def isBlank (c : Char) : Bool :=
  inRanges blankRanges c

def dropBlanks (cs : List Char) : List Char :=
  cs.dropWhile isBlank

def stripWhere (p : α → Bool) (xs : List α) : List α :=
  ((xs.dropWhile p).reverse.dropWhile p).reverse

def strip (cs : List Char) : List Char :=
  stripWhere isBlank cs

def words (cs : List Char) : List (List Char) :=
  go [] cs
where
  -- `word` is the word read so far, backwards.
  go (word : List Char) : List Char → List (List Char)
    | [] => if word.isEmpty then [] else [word.reverse]
    | c :: cs =>
      if isBlank c then
        if word.isEmpty then go [] cs else word.reverse :: go [] cs
      else
        go (c :: word) cs

def joinWords (ws : List (List Char)) : List Char :=
  [' '].intercalate ws

end Automation.Text
