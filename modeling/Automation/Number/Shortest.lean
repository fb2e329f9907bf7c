import Automation.Number.Binary64

/-!
This module contains the decimal text of binary numbers: the fewest digits that read back as the
same number, and among those the nearest.
-/

namespace Automation.Binary64

def decimalDigits (n : Nat) : List Char :=
  Nat.toDigits 10 n

/--
An interval of quotients with a common denominator, around one of them. The ends belong to it when
`closed` holds.
-/
structure Interval where
  lower : Nat
  middle : Nat
  upper : Nat
  den : Nat
  closed : Bool

def roundingInterval (m : Nat) (e : Int) : Interval :=
  let scale := twoTo (e - 2).toNat
  let gap := if m = twoTo 52 && minExponent < e then 1 else 2
  { lower := (4 * m - gap) * scale
    middle := 4 * m * scale
    upper := (4 * m + 2) * scale
    den := twoTo (2 - e).toNat
    closed := m % 2 == 0 }

namespace Interval

def contains (i : Interval) (num den : Nat) : Bool :=
  if i.closed then i.lower * den ≤ num * i.den && num * i.den ≤ i.upper * den
  else i.lower * den < num * i.den && num * i.den < i.upper * den

/-- The multiples of `10 ^ power` next to the middle that lie in the interval, nearest first. -/
def onGrid (i : Interval) (power : Int) : Option Nat :=
  let num := tenTo power.toNat
  let den := tenTo (-power).toNat
  let below := i.middle * den / (i.den * num)
  let above := below + 1
  let fitsBelow := below != 0 && i.contains (below * num) den
  let fitsAbove := i.contains (above * num) den
  if fitsBelow && fitsAbove then
    let twice := 2 * (i.middle * den)
    let half := (below + above) * (i.den * num)
    some (if twice < half || (twice == half && below % 2 == 0) then below else above)
  else if fitsBelow then some below
  else if fitsAbove then some above
  else none

def leadingPower (i : Interval) : Int :=
  if i.den ≤ i.middle then
    ((decimalDigits (i.middle / i.den)).length : Int) - 1
  else
    -- the quotient is below one: `den / middle` rounded up has as many digits as there are places
    -((decimalDigits ((i.den + i.middle - 1) / i.middle - 1)).length : Int)

/-- The first of `count` ever finer grids with a point in the interval, and its power of ten. -/
def shortest (i : Interval) (power : Int) : (count : Nat) → Nat × Int
  | 0 => (i.middle / i.den, 0)
  | count + 1 =>
    match i.onGrid power with
    | some n => (n, power)
    | none => shortest i (power - 1) count

end Interval

def shortestDecimal (m : Nat) (e : Int) : List Char × Int :=
  let i := roundingInterval m e
  let (n, power) := i.shortest i.leadingPower 18
  let digits := decimalDigits n
  let kept := (digits.reverse.dropWhile (· == '0')).reverse
  (kept, power + (digits.length - kept.length : Nat))

def lastPositionalPoint : Int := 16

def firstPositionalPoint : Int := -4

def exponentText (n : Int) : List Char :=
  let digits := decimalDigits n.natAbs
  'e' :: (if n < 0 then '-' else '+') :: (if digits.length < 2 then '0' :: digits else digits)

def layout (digits : List Char) (point : Int) : List Char :=
  if lastPositionalPoint < point || point ≤ firstPositionalPoint then
    match digits with
    | [] => []
    | [d] => d :: exponentText (point - 1)
    | d :: ds => d :: '.' :: ds ++ exponentText (point - 1)
  else if point ≤ 0 then
    '0' :: '.' :: List.replicate (-point).toNat '0' ++ digits
  else if digits.length ≤ point.toNat then
    digits ++ List.replicate (point.toNat - digits.length) '0' ++ ['.', '0']
  else
    digits.take point.toNat ++ '.' :: digits.drop point.toNat

def text : Binary64 → List Char
  | finite negative m e =>
    let body :=
      if m = 0 then ['0', '.', '0']
      else
        let (digits, power) := shortestDecimal m e
        layout digits (power + digits.length)
    if negative then '-' :: body else body
  | infinite negative => if negative then "-inf".toList else "inf".toList
  | undefined => "nan".toList

end Automation.Binary64
