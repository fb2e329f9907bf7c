import Automation.Json.Fault
import Automation.Json.Literal
import Automation.Text.Numeral
import Automation.Text.Search

/-!
This module contains what a loosely typed value can be used as: a text, an object, a list, a number,
a key. Texts and objects can stand for lists, and lists of pairs for objects.
-/

namespace Automation.Json

def asText (operation : String) : Json → Except Fault Text
  | string t => .ok t
  | v => .error (.lacksOperation v.kind operation)

def asObject : Json → Except Fault Fields
  | object fs => .ok fs
  | v => .error (.lacksOperation v.kind "get")

def asList : Json → Except Fault (List Json)
  | array xs => .ok xs
  | string t => .ok (t.glyphs.map fun g => string (Text.ofGlyphs [g]))
  | object fs => .ok ((Fields.keys fs).map string)
  | v => .error (.notIterable v.kind)

def asMapping : Json → Except Fault Fields
  | object fs => .ok fs
  | v => .error (.notMapping v.kind)

def asKey : Json → Except Fault Json
  | array _ => .error (.unhashable "list")
  | object _ => .error (.unhashable "dict")
  | v => .ok v

def fieldName : Json → Text
  | null => "null"
  | bool b => if b then "true" else "false"
  | v => v.text

def asPair (position : Nat) (v : Json) : Except Fault (Json × Json) :=
  match v.asList with
  | .ok [k, x] => do return (← k.asKey, x)
  | .ok xs => .error (.pairLength position xs.length)
  | .error _ => .error (.notPair position)

def putKey : List (Json × Json) → Json → Json → List (Json × Json)
  | [], key, value => [(key, value)]
  | (k, v) :: ps, key, value =>
    if k.same key then (k, value) :: ps else (k, v) :: putKey ps key value

def readPairs (found : List (Json × Json)) (position : Nat) :
    List Json → Except Fault (List (Json × Json))
  | [] => .ok found
  | v :: vs => do
    let (key, value) ← v.asPair position
    readPairs (putKey found key value) (position + 1) vs

def toFields : Json → Except Fault Fields
  | object fs => .ok fs
  | v => do
    let pairs ← readPairs [] 0 (← v.asList)
    return Fields.ofPairs (pairs.map fun (k, x) => (k.fieldName, x))

def toInteger : Json → Except Fault Int
  -- Fractions are cut off, and texts are read.
  | int n => .ok n
  | bool b => .ok b.toInt
  | real x =>
    match x with
    | .finite .. => .ok (x.truncate?.getD 0)
    | .infinite _ => .error .infiniteInteger
    | .undefined => .error .undefinedInteger
  | string t =>
    match Text.readInteger (t.glyphs.map (·.shape)) with
    | .ok n => .ok n
    | .error .malformed => .error (.badNumeral t)
    | .error (.tooLong digits) => .error (.longNumeral digits)
  | v => .error (.notNumber v.kind)

def field (v : Json) (key : String) : Except Fault Json :=
  match v with
  | object fs =>
    match Fields.get? fs key with
    | some x => .ok x
    | none => .error (.missingKey key)
  | array _ => .error (.indexedByPosition "list")
  | string _ => .error (.indexedByPosition "str")
  | v => .error (.notIndexed v.kind)

def occursInText (part : String) : Text → Bool
  -- A string lies within one of the pieces between halves.
  | .whole s => mentions s [part]
  | .broken s _ t => mentions s [part] || occursInText part t

def contains (v : Json) (key : String) : Except Fault Bool :=
  match v with
  | object fs => .ok (Fields.has fs key)
  | array xs => .ok (xs.any (same (string key)))
  | string t => .ok (occursInText key t)
  | v => .error (.notContainer v.kind)

def times (v : Json) (n : Nat) : Except Fault Json :=
  match v with
  | bool b => .ok (int (b.toInt * n))
  | int m => .ok (int (m * n))
  | real x => .ok (real (x.scale n))
  | string t => .ok (string (Text.join (List.replicate n t)))
  | array xs => .ok (array (List.replicate n xs).flatten)
  | v => .error (.notMultiple v.kind)

end Automation.Json
