import Automation.Json.Basic
import Automation.Text.Numeral

/-!
This module contains the tokens of document texts: marks, scalars and texts. A text that cannot be
cut further ends with a token that says why.
-/

namespace Automation.Json

inductive Token where
  | openArray
  | closeArray
  | openObject
  | closeObject
  | colon
  | comma
  | scalar (v : Json)
  | text (t : Text)
  | malformed
  | longNumeral (digits : Nat)
  deriving Repr, DecidableEq

def isGap (c : Char) : Bool :=
  c == ' ' || c == '\t' || c == '\n' || c == '\r'

def hexValue? (c : Char) : Option Nat :=
  if '0' ≤ c && c ≤ '9' then some (c.toNat - 0x30)
  else if 'a' ≤ c && c ≤ 'f' then some (c.toNat - 0x57)
  else if 'A' ≤ c && c ≤ 'F' then some (c.toNat - 0x37)
  else none

def hexUnit? (a b c d : Char) : Option Nat := do
  return 0x1000 * (← hexValue? a) + 0x100 * (← hexValue? b) + 0x10 * (← hexValue? c) +
    (← hexValue? d)

def escaped? : Char → Option Char
  | '"' => some '"'
  | '\\' => some '\\'
  | '/' => some '/'
  | 'b' => some '\x08'
  | 'f' => some '\x0c'
  | 'n' => some '\n'
  | 'r' => some '\r'
  | 't' => some '\t'
  | _ => none

/--
The code units of a text up to its closing quote, after those in `found`, which stand backwards, and
what follows the quote.
-/
def takeUnits (found : List Nat) : List Char → Option (List Nat × List Char)
  | [] => none
  | '"' :: cs => some (found.reverse, cs)
  | '\\' :: 'u' :: a :: b :: c :: d :: cs =>
    match hexUnit? a b c d with
    | some unit => takeUnits (unit :: found) cs
    | none => none
  | '\\' :: c :: cs =>
    match escaped? c with
    | some c => takeUnits (c.toNat :: found) cs
    | none => none
  | c :: cs => if c == '\\' || c.toNat < 0x20 then none else takeUnits (c.toNat :: found) cs

def isHighHalf (unit : Nat) : Bool :=
  0xD800 ≤ unit && unit < 0xDC00

def isLowHalf (unit : Nat) : Bool :=
  0xDC00 ≤ unit && unit < 0xE000

def joinUnits : List Nat → List Glyph
  -- A high half and the low half right after it are one character.
  | [] => []
  | [unit] => [Glyph.ofUnit unit]
  | high :: low :: units =>
    if isHighHalf high && isLowHalf low then
      .char (Char.ofNat (0x10000 + 0x400 * (high - 0xD800) + (low - 0xDC00))) :: joinUnits units
    else
      Glyph.ofUnit high :: joinUnits (low :: units)

def takePlainDigits (cs : List Char) : List Char × List Char :=
  (cs.takeWhile (·.isDigit), cs.dropWhile (·.isDigit))

def takeFraction : List Char → List Char × List Char
  | '.' :: cs =>
    match takePlainDigits cs with
    | ([], _) => ([], '.' :: cs)
    | split => split
  | cs => ([], cs)

def takeExponent : List Char → Option Int × List Char
  | [] => (none, [])
  | e :: cs =>
    if e == 'e' || e == 'E' then
      let (negative, digits) :=
        match cs with
        | '-' :: ds => (true, ds)
        | '+' :: ds => (false, ds)
        | ds => (false, ds)
      match takePlainDigits digits with
      | ([], _) => (none, e :: cs)
      | (ds, rest) =>
        let n : Int := Text.digitsValue ds
        (some (if negative then -n else n), rest)
    else
      (none, e :: cs)

def takeWhole : List Char → List Char × List Char
  -- A zero at the head stands alone.
  | '0' :: cs => (['0'], cs)
  | cs => takePlainDigits cs

def takeNumber (negative : Bool) (cs : List Char) : Option (Token × List Char) :=
  let (whole, rest) := takeWhole cs
  if whole.isEmpty then
    none
  else
    let (fraction, rest) := takeFraction rest
    let (power, rest) := takeExponent rest
    if fraction.isEmpty && power.isNone then
      if whole.length > Text.maxDigits then
        some (.longNumeral whole.length, rest)
      else
        let n : Int := Text.digitsValue whole
        some (.scalar (.int (if negative then -n else n)), rest)
    else
      let digits := Text.digitsValue (whole ++ fraction)
      let x := Binary64.ofDecimal negative digits (power.getD 0 - fraction.length)
      some (.scalar (.real x), rest)

def wordValues : List (List Char × Json) := [
  ("null".toList, .null),
  ("true".toList, .bool true),
  ("false".toList, .bool false),
  ("NaN".toList, .real .undefined),
  ("Infinity".toList, .real (.infinite false)),
  ("-Infinity".toList, .real (.infinite true))
]

def takeWord (cs : List Char) : Option (Token × List Char) :=
  (wordValues.find? fun (word, _) => word.isPrefixOf cs).map fun (word, v) =>
    (.scalar v, cs.drop word.length)

def takeToken : List Char → Option (Token × List Char)
  | '[' :: cs => some (.openArray, cs)
  | ']' :: cs => some (.closeArray, cs)
  | '\x7b' :: cs => some (.openObject, cs)
  | '\x7d' :: cs => some (.closeObject, cs)
  | ':' :: cs => some (.colon, cs)
  | ',' :: cs => some (.comma, cs)
  | '"' :: cs =>
    (takeUnits [] cs).map fun (units, rest) => (.text (Text.ofGlyphs (joinUnits units)), rest)
  | '-' :: cs => takeWord ('-' :: cs) <|> takeNumber true cs
  | cs => takeWord cs <|> takeNumber false cs

def tokens (cs : List Char) : List Token :=
  go cs.length cs
where
  -- Every token takes a character at least, so that `fuel` never runs out before the text.
  go : (fuel : Nat) → List Char → List Token
    | 0, cs => if (cs.dropWhile isGap).isEmpty then [] else [.malformed]
    | fuel + 1, cs =>
      match cs.dropWhile isGap with
      | [] => []
      | cs =>
        match takeToken cs with
        | some (token, rest) => token :: go fuel rest
        | none => [.malformed]

end Automation.Json
