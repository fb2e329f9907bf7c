/-!
This module contains the search for one text within another.
-/

namespace Automation.Text

def occursIn (part : List Char) : List Char → Bool
  | [] => part.isEmpty
  | c :: cs => part.isPrefixOf (c :: cs) || occursIn part cs

theorem occursIn_iff {part cs : List Char} : occursIn part cs = true ↔ part <:+: cs := by
  induction cs with
  | nil => simp [occursIn, List.infix_nil]
  | cons c cs ih => simp [occursIn, ih, List.infix_cons_iff]

end Automation.Text

namespace Automation

def mentions (text : String) (words : List String) : Bool :=
  words.any fun word => Text.occursIn word.toList text.toList

end Automation
