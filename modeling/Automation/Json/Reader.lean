import Automation.Json.Token
import Automation.Json.Fault

/-!
This module contains the reading of document texts: a machine that keeps the arrays and objects that
are open and is fed token by token. Of fields with one name the last counts, at the place of the
first. A text is refused at its first token that cannot stand where it is.
-/

namespace Automation.Json

inductive ReadFault where
  | malformed
  | excess (fault : Fault)
  deriving Repr, DecidableEq

def maxDepth : Nat := 970

inductive Frame where
  | array (items : List Json)
  | object (fields : Fields) (name : Text)
  deriving Repr, DecidableEq

inductive Expected where
  | value
  | firstItem
  | name
  | firstName
  | colon
  | separator
  deriving Repr, DecidableEq

inductive Reader where
  | inside (frames : List Frame) (expected : Expected)
  | done (v : Json)
  deriving Repr, DecidableEq

namespace Reader

def start : Reader :=
  inside [] .value

def supply (frames : List Frame) (v : Json) : Reader :=
  -- Elements and fields are kept backwards.
  match frames with
  | [] => done v
  | .array items :: frames => inside (.array (v :: items) :: frames) .separator
  | .object fields name :: frames =>
    inside (.object ((name, v) :: fields) name :: frames) .separator

def enter (frames : List Frame) (frame : Frame) (expected : Expected) (within : String) :
    Except ReadFault Reader :=
  if frames.length < maxDepth then .ok (inside (frame :: frames) expected)
  else .error (.excess (.tooDeep within))

def readValue (frames : List Frame) : Token → Except ReadFault Reader
  | .openArray => enter frames (.array []) .firstItem "array"
  | .openObject => enter frames (.object [] "") .firstName "object"
  | .scalar v => .ok (supply frames v)
  | .text t => .ok (supply frames (.string t))
  | .longNumeral digits => .error (.excess (.longNumeral digits))
  | _ => .error .malformed

def close : List Frame → Token → Except ReadFault Reader
  | .array items :: frames, .closeArray => .ok (supply frames (.array items.reverse))
  | .object fields _ :: frames, .closeObject =>
    .ok (supply frames (.object (Fields.ofPairs fields.reverse)))
  | _, _ => .error .malformed

def readName : List Frame → Token → Except ReadFault Reader
  | .object fields _ :: frames, .text t => .ok (inside (.object fields t :: frames) .colon)
  | _, _ => .error .malformed

def step : Reader → Token → Except ReadFault Reader
  | done _, _ => .error .malformed
  | inside frames .value, token => readValue frames token
  | inside frames .firstItem, .closeArray => close frames .closeArray
  | inside frames .firstItem, token => readValue frames token
  | inside frames .name, token => readName frames token
  | inside frames .firstName, .closeObject => close frames .closeObject
  | inside frames .firstName, token => readName frames token
  | inside frames .colon, .colon => .ok (inside frames .value)
  | inside _ .colon, _ => .error .malformed
  | inside (.array items :: frames) .separator, .comma =>
    .ok (inside (.array items :: frames) .value)
  | inside (.object fields name :: frames) .separator, .comma =>
    .ok (inside (.object fields name :: frames) .name)
  | inside frames .separator, token => close frames token

def run (r : Reader) (ts : List Token) : Except ReadFault Reader :=
  ts.foldlM step r

@[simp]
theorem run_nil (r : Reader) : r.run [] = .ok r := rfl

end Reader

def read (cs : List Char) : Except ReadFault Json := do
  match ← Reader.start.run (tokens cs) with
  | .done v => return v
  | .inside .. => throw .malformed

def ofText (s : String) : Except ReadFault Json :=
  read s.toList

end Automation.Json
