import Automation.Text.Numeral

/-!
This module contains the whole numbers that a setting may be written as. A plain numeral is read as
it is; any other text is trimmed first: blanks around it, a plus sign, needless zeros, a fraction of
zeros and low lines between digits go.
-/

namespace Automation.Settings

inductive NumeralFault where
  | malformed
  | overlong
  deriving Repr, DecidableEq

def readPlain (cs : List Char) : Except NumeralFault Int :=
  -- Sign and digits are counted before what follows them is looked at.
  let (negative, body) :=
    match cs with
    | '-' :: body => (true, body)
    | body => (false, body)
  let digits := body.takeWhile (·.isDigit)
  match digits with
  | [] => .error .malformed
  | '0' :: _ => if body.length = 1 then .ok 0 else .error .malformed
  | _ =>
    if digits.length + (if negative then 1 else 0) > Text.maxDigits then .error .overlong
    else if digits.length < body.length then .error .malformed
    else
      let n : Int := Text.digitsValue digits
      .ok (if negative then -n else n)

def dropZeros : List Char → Option (List Char)
  -- One zero stays before a point or at the end.
  | [] => none
  | '0' :: cs => go '0' cs
  | c :: cs => if c.isDigit then some (c :: cs) else none
where
  -- `last` is the character before the text.
  go (last : Char) : List Char → Option (List Char)
    | [] => some [last]
    | '.' :: cs => some (last :: '.' :: cs)
    | c :: cs =>
      if c == '0' || c == '_' then go c cs
      else if c == '-' || c.isDigit then some (c :: cs)
      else none

def dropZeroFraction (cs : List Char) : List Char :=
  match cs.dropWhile (· != '.') with
  | '.' :: digit :: digits =>
    if (digit :: digits).all (· == '0') then cs.takeWhile (· != '.') else cs
  | _ => cs

def doublesLowLine (cs : List Char) : Bool :=
  (cs.zip (cs.drop 1)).contains ('_', '_')

def dropLowLines (cs : List Char) : List Char :=
  if cs.head? == some '_' || cs.getLast? == some '_' || doublesLowLine cs then cs
  else cs.filter (· != '_')

def trim? (cs : List Char) : Option (List Char) := do
  let (sign, body) :=
    match Text.stripWhere Text.isNumeralBlank cs with
    | '-' :: body => (['-'], body)
    | '+' :: body => ([], body)
    | body => ([], body)
  if body.head? == some '-' then
    none
  else
    return sign ++ dropLowLines (dropZeroFraction (← dropZeros body))

def readNumeral (s : String) : Except NumeralFault Int :=
  match readPlain s.toList with
  | .error .malformed =>
    match (trim? s.toList).map readPlain with
    | some (.ok n) => .ok n
    | _ => .error .malformed
  | read => read

end Automation.Settings
