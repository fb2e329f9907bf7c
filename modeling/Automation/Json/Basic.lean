import Automation.Number.Binary64
import Automation.Text.Basic

/-!
This module contains loosely typed values as documents hold them. Whole numbers are unbounded and
apart from binary ones, and objects keep the order of their fields.
-/

namespace Automation

inductive Json where
  | null
  | bool (b : Bool)
  | int (n : Int)
  | real (x : Binary64)
  | string (t : Text)
  | array (items : List Json)
  | object (fields : List (Text × Json))
  deriving Repr, Inhabited

abbrev Fields := List (Text × Json)

instance : Coe String Json where
  coe s := .string s

instance : Coe Bool Json where
  coe := .bool

instance : Coe Int Json where
  coe := .int

instance : OfNat Json n where
  ofNat := .int n

namespace Fields

def get? : Fields → Text → Option Json
  | [], _ => none
  | (k, v) :: fs, key => if k = key then some v else get? fs key

def getD (fields : Fields) (key : Text) (default : Json) : Json :=
  (fields.get? key).getD default

def has (fields : Fields) (key : Text) : Bool :=
  (fields.get? key).isSome

def keys (fields : Fields) : List Text :=
  fields.map (·.1)

def put : Fields → Text → Json → Fields
  | [], key, value => [(key, value)]
  | (k, v) :: fs, key, value => if k = key then (k, value) :: fs else (k, v) :: put fs key value

def merge (fields more : Fields) : Fields :=
  more.foldl (fun fs (k, v) => fs.put k v) fields

def ofPairs (pairs : List (Text × Json)) : Fields :=
  -- The last value of a name stands where the name came first.
  merge [] pairs

@[simp]
theorem get?_nil (key : Text) : get? [] key = none := rfl

@[simp]
theorem get?_put_self (fields : Fields) (key : Text) (value : Json) :
    (fields.put key value).get? key = some value := by
  induction fields with
  | nil => simp [put, get?]
  | cons f fs ih => by_cases h : f.1 = key <;> simp [put, get?, h, ih]

theorem get?_put_of_ne (fields : Fields) {key other : Text} (value : Json) (h : key ≠ other) :
    (fields.put key value).get? other = fields.get? other := by
  induction fields with
  | nil => simp [put, get?, h]
  | cons f fs ih =>
    by_cases hk : f.1 = key
    · simp [put, get?, hk, h]
    · by_cases ho : f.1 = other <;> simp [put, get?, hk, ho, ih, h.symm]

end Fields

namespace Json

def kind : Json → String
  | null => "NoneType"
  | bool _ => "bool"
  | int _ => "int"
  | real _ => "float"
  | string _ => "str"
  | array _ => "list"
  | object _ => "dict"

def isVoid : Json → Bool
  | null => true
  | bool b => !b
  | int n => n == 0
  | real x => x.isZero
  | string t => t.isEmpty
  | array xs => xs.isEmpty
  | object fs => fs.isEmpty

def orElse (value default : Json) : Json :=
  if value.isVoid then default else value

mutual

def isFinite : Json → Bool
  | real x => x.isFinite
  | array xs => areFinite xs
  | object fs => haveFinite fs
  | _ => true

def areFinite : List Json → Bool
  | [] => true
  | x :: xs => x.isFinite && areFinite xs

def haveFinite : Fields → Bool
  | [] => true
  | (_, x) :: fs => x.isFinite && haveFinite fs

end

def wholeNumber? : Json → Option Int
  -- Truth values are numbers.
  | bool b => some b.toInt
  | int n => some n
  | _ => none

def sameNumber : Json → Json → Bool
  | real x, real y => x.equals y
  | real x, b => match b.wholeNumber? with
    | some n => x.equalsInt n
    | none => false
  | a, real y => match a.wholeNumber? with
    | some n => y.equalsInt n
    | none => false
  | a, b => match a.wholeNumber?, b.wholeNumber? with
    | some m, some n => m == n
    | _, _ => false

mutual

/--
Equality of values by what they stand for: numbers of any kind are compared as numbers, and the
order of fields does not count.
-/
def same : Json → Json → Bool
  | null, null => true
  | string s, string t => s == t
  | array xs, array ys => sameItems xs ys
  | object fs, object gs => fs.length == gs.length && sameFields fs gs
  | a, b => sameNumber a b

def sameItems : List Json → List Json → Bool
  | [], [] => true
  | x :: xs, y :: ys => same x y && sameItems xs ys
  | _, _ => false

def sameFields : Fields → Fields → Bool
  | [], _ => true
  | (k, v) :: fs, gs =>
    match Fields.get? gs k with
    | some w => same v w && sameFields fs gs
    | none => false

end

mutual

def decEq : (a b : Json) → Decidable (a = b)
  | null, null => isTrue rfl
  | bool a, bool b => decidable_of_iff (a = b) (by simp)
  | int a, int b => decidable_of_iff (a = b) (by simp)
  | real a, real b => decidable_of_iff (a = b) (by simp)
  | string a, string b => decidable_of_iff (a = b) (by simp)
  | array a, array b =>
    have := decEqItems a b
    decidable_of_iff (a = b) (by simp)
  | object a, object b =>
    have := decEqFields a b
    decidable_of_iff (a = b) (by simp)
  | null, bool _ | null, int _ | null, real _ | null, string _ | null, array _ | null, object _
  | bool _, null | bool _, int _ | bool _, real _ | bool _, string _ | bool _, array _
  | bool _, object _ | int _, null | int _, bool _ | int _, real _ | int _, string _
  | int _, array _ | int _, object _ | real _, null | real _, bool _ | real _, int _
  | real _, string _ | real _, array _ | real _, object _ | string _, null | string _, bool _
  | string _, int _ | string _, real _ | string _, array _ | string _, object _ | array _, null
  | array _, bool _ | array _, int _ | array _, real _ | array _, string _ | array _, object _
  | object _, null | object _, bool _ | object _, int _ | object _, real _ | object _, string _
  | object _, array _ => isFalse (by simp)

def decEqItems : (a b : List Json) → Decidable (a = b)
  | [], [] => isTrue rfl
  | [], _ :: _ | _ :: _, [] => isFalse (by simp)
  | x :: xs, y :: ys =>
    have := decEq x y
    have := decEqItems xs ys
    decidable_of_iff (x = y ∧ xs = ys) (by simp)

def decEqFields : (a b : Fields) → Decidable (a = b)
  | [], [] => isTrue rfl
  | [], _ :: _ | _ :: _, [] => isFalse (by simp)
  | (k, x) :: xs, (l, y) :: ys =>
    have := decEq x y
    have := decEqFields xs ys
    decidable_of_iff (k = l ∧ x = y ∧ xs = ys) (by simp [and_assoc])

end

instance : DecidableEq Json := decEq

end Json

end Automation
