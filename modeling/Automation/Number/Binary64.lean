import Automation.Number.Power

/-!
This module contains the binary numbers of 64 bits: a sign, a whole significand below `2 ^ 53` and a
power of two. Every result is the representable number nearest to the exact one, and of two equally
near ones that with an even significand.
-/

namespace Automation

inductive Binary64 where
  | finite (negative : Bool) (significand : Nat) (exponent : Int)
  | infinite (negative : Bool)
  | undefined
  deriving Repr, DecidableEq, Inhabited

namespace Binary64

def minExponent : Int := -1074

def maxExponent : Int := 971

def roundDiv (num den : Nat) : Nat :=
  -- Of two nearest numbers it is the even one.
  let q := num / den
  let r := num % den
  if 2 * r < den then q
  else if den < 2 * r then q + 1
  else if q % 2 = 0 then q
  else q + 1

def unitExponent (num den : Nat) : Int :=
  let guess : Int := (Nat.log2 num : Int) - (Nat.log2 den : Int)
  let reached :=
    if 0 ≤ guess then den * twoTo guess.toNat ≤ num else den ≤ num * twoTo (-guess).toNat
  max ((if reached then guess else guess - 1) - 52) minExponent

def ofRatio (negative : Bool) (num den : Nat) : Binary64 :=
  if num = 0 then
    finite negative 0 minExponent
  else
    let e := unitExponent num den
    let m :=
      if 0 ≤ e then roundDiv num (den * twoTo e.toNat) else roundDiv (num * twoTo (-e).toNat) den
    let (m, e) := if m = twoTo 53 then (twoTo 52, e + 1) else (m, e)
    if maxExponent < e then infinite negative else finite negative m e

def ofDecimal (negative : Bool) (digits : Nat) (exponent : Int) : Binary64 :=
  if digits = 0 then
    finite negative 0 minExponent
  else if 400 < exponent then
    infinite negative
  else if exponent < 0 then
    if (Nat.log2 digits : Int) + 1 + 3 * exponent < -1100 then
      finite negative 0 minExponent
    else
      ofRatio negative digits (tenTo (-exponent).toNat)
  else
    ofRatio negative (digits * tenTo exponent.toNat) 1

def isZero : Binary64 → Bool
  | finite _ m _ => m == 0
  | _ => false

def isFinite : Binary64 → Bool
  | finite .. => true
  | _ => false

def truncate? : Binary64 → Option Int
  | finite negative m e =>
    let n : Nat := if 0 ≤ e then m * twoTo e.toNat else m / twoTo (-e).toNat
    some (if negative then -n else n)
  | _ => none

def isWhole : Binary64 → Bool
  | finite _ m e => 0 ≤ e || m % twoTo (-e).toNat == 0
  | _ => false

def equalsInt (x : Binary64) (n : Int) : Bool :=
  x.isWhole && x.truncate? == some n

def equals : Binary64 → Binary64 → Bool
  -- Both zeros are equal, and what is undefined equals nothing.
  | undefined, _ => false
  | x, y => x == y || (x.isZero && y.isZero)

def scale (x : Binary64) (n : Nat) : Binary64 :=
  match x with
  | finite negative m e =>
    if 0 ≤ e then ofRatio negative (m * twoTo e.toNat * n) 1
    else ofRatio negative (m * n) (twoTo (-e).toNat)
  | infinite negative => if n = 0 then undefined else infinite negative
  | undefined => undefined

end Binary64

end Automation
