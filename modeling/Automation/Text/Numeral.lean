import Automation.Text.Blank
import Automation.Text.Digit

/-!
This module contains the reading of whole numbers: an optional sign and digits of any script, which
single low lines may part. A number of more than `maxDigits` digits is refused.
-/

namespace Automation.Text

def maxDigits : Nat := 4300

inductive NumeralFault where
  | malformed
  | tooLong (digits : Nat)
  deriving Repr, DecidableEq

def isNumeralBlank (c : Char) : Bool :=
  isBlank c && !(0x1C ≤ c.toNat && c.toNat ≤ 0x1F)

def takeDigits : List Char → List Char × List Char
  -- A low line that no digit follows stays at the head of the rest.
  | [] => ([], [])
  | c :: '_' :: d :: cs =>
    if isDigit c && isDigit d then
      (takeDigits (d :: cs)).map (c :: ·) id
    else if isDigit c then
      ([c], '_' :: d :: cs)
    else
      ([], c :: '_' :: d :: cs)
  | c :: cs =>
    if isDigit c then (takeDigits cs).map (c :: ·) id else ([], c :: cs)

def readDigits (cs : List Char) : Except NumeralFault Nat :=
  match takeDigits cs with
  | ([], _) => .error .malformed
  | (_, '_' :: _) => .error .malformed
  | (digits, rest) =>
    if digits.length > maxDigits then
      .error (.tooLong digits.length)
    else if rest.all isNumeralBlank then
      .ok (digitsValue digits)
    else
      .error .malformed

def readInteger (cs : List Char) : Except NumeralFault Int :=
  match cs.dropWhile isNumeralBlank with
  | '-' :: digits => return -(← readDigits digits : Nat)
  | '+' :: digits => return (← readDigits digits : Nat)
  | digits => return (← readDigits digits : Nat)

end Automation.Text
