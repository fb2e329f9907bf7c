import Automation.Text.Basic
import Automation.Text.Printable

/-!
This module contains the quoted form of a text in messages. The quotes are single ones, unless the
text holds a single quote and no double one; what has no visible form is written by its number.
-/

namespace Automation.Text

def hexDigit (n : Nat) : Char :=
  if n < 10 then Char.ofNat (0x30 + n) else Char.ofNat (0x57 + n)

def hexDigits : (width : Nat) → (n : Nat) → List Char
  | 0, _ => []
  | width + 1, n => hexDigits width (n / 16) ++ [hexDigit (n % 16)]

@[simp]
theorem length_hexDigits (width n : Nat) : (hexDigits width n).length = width := by
  induction width generalizing n with
  | zero => rfl
  | succ width ih => simp [hexDigits, ih]

def quoteMark (gs : List Glyph) : Char :=
  if gs.contains (.char '\'') && !gs.contains (.char '"') then '"' else '\''

def quoteChar (mark c : Char) : List Char :=
  if c = mark || c = '\\' then ['\\', c]
  else if c = '\t' then ['\\', 't']
  else if c = '\n' then ['\\', 'n']
  else if c = '\r' then ['\\', 'r']
  else if isPrintable c then [c]
  else if c.toNat < 0x100 then '\\' :: 'x' :: hexDigits 2 c.toNat
  else if c.toNat < 0x10000 then '\\' :: 'u' :: hexDigits 4 c.toNat
  else '\\' :: 'U' :: hexDigits 8 c.toNat

def quoteGlyph (mark : Char) : Glyph → List Char
  | .char c => quoteChar mark c
  | .half h => '\\' :: 'u' :: hexDigits 4 h.unit

def quote (t : Text) : List Char :=
  let mark := quoteMark t.glyphs
  mark :: t.glyphs.flatMap (quoteGlyph mark) ++ [mark]

end Automation.Text
