import Automation.Console.Style
import Automation.Proofs.Text.Strip

/-!
This module contains the styles of one word: a word that names no effect and has no other meaning is
the name of its style, whether or not there is a color of that name.
-/

namespace Automation.Console.Style

/-- A word in small letters that can only name a color, if anything, and no numbered one. -/
structure IsColorWord (w : List Char) : Prop where
  isBlankFree : Text.IsBlankFree w
  lower : Text.lower w = w
  reserved : w ∉ ["none".toList, "on".toList, "not".toList, "link".toList]
  effect? : effect? w = none
  rgb : Color.inBrackets? "rgb" w = none

variable {w : List Char}

theorem check_ne_badNumber (h : Color.inBrackets? "rgb" w = none) :
    Color.check w ≠ .error .badNumber := by
  unfold Color.check
  split
  . nofun
  . rw [h]
    split
    . split <;> nofun
    . split <;> nofun
    . contradiction
    . nofun

theorem addWords_of_isColorWord (h : IsColorWord w) :
    addWords {} [w] = (Color.check w).map fun _ => { color := some w } := by
  obtain ⟨-, hon, hnot, hlink⟩ := by simpa using h.reserved
  simp only [addWords, h.lower]
  rw [if_neg (by simpa using hon), if_neg (by simpa using hnot), if_neg (by simpa using hlink)]
  simp only [h.effect?, Color.read, h.lower]
  cases Color.check w <;> rfl

theorem normalize_of_isColorWord (h : IsColorWord w) : normalize w = .ok w := by
  have hnone : w ≠ "none".toList := fun heq => h.reserved (by simp [heq])
  rw [normalize, read, Text.strip_of_isBlankFree h.isBlankFree, if_neg hnone,
    Text.words_of_isBlankFree h.isBlankFree, addWords_of_isColorWord h]
  cases heq : Color.check w with
  | ok u =>
    have hname : name { color := some w } = w := Text.joinWords_singleton w
    exact congrArg Except.ok hname
  | error fault =>
    cases fault with
    | badNumber => exact absurd heq (check_ne_badNumber h.rgb)
    | unknown => exact congrArg Except.ok h.lower

end Automation.Console.Style
