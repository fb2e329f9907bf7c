import Automation.Json.Basic
import Automation.Text.Quoted

/-!
This module contains the ways in which a loosely typed value fails to be what it is used as, and the
message of each.
-/

namespace Automation

inductive Fault where
  | lacksOperation (kind operation : String)
  | notIterable (kind : String)
  | notMapping (kind : String)
  | notContainer (kind : String)
  | notIndexed (kind : String)
  | indexedByPosition (kind : String)
  | unhashable (kind : String)
  | notText (kind : String)
  | notNumber (kind : String)
  | notMultiple (kind : String)
  | badCut
  | missingKey (key : String)
  | notPair (position : Nat)
  | pairLength (position length : Nat)
  | badNumeral (text : Text)
  | longNumeral (digits : Nat)
  | unwritableNumber
  | wideNumber
  | infiniteInteger
  | undefinedInteger
  | tooDeep (within : String)
  | unencodable (position : Nat) (halves : List LoneHalf)
  | unsendableNumber
  deriving Repr, DecidableEq

namespace Fault

def maxShown : Nat := 200

def message : Fault → String
  | lacksOperation kind operation =>
    "'" ++ kind ++ "' object has no attribute '" ++ operation ++ "'"
  | notIterable kind => "'" ++ kind ++ "' object is not iterable"
  | notMapping kind => "'" ++ kind ++ "' object is not a mapping"
  | notContainer kind => "argument of type '" ++ kind ++ "' is not iterable"
  | notIndexed kind => "'" ++ kind ++ "' object is not subscriptable"
  | indexedByPosition kind =>
    if kind = "str" then "string indices must be integers, not 'str'"
    else kind ++ " indices must be integers or slices, not str"
  | unhashable kind => "unhashable type: '" ++ kind ++ "'"
  | notText kind => "expected string or bytes-like object, got '" ++ kind ++ "'"
  | notNumber kind =>
    "int() argument must be a string, a bytes-like object or a real number, not '" ++ kind ++ "'"
  | notMultiple kind => "unsupported operand type(s) for *: '" ++ kind ++ "' and 'int'"
  | badCut => "slice indices must be integers or None or have an __index__ method"
  | missingKey key => String.ofList (Text.quote key)
  | notPair position =>
    "cannot convert dictionary update sequence element #" ++ toString position ++ " to a sequence"
  | pairLength position length =>
    "dictionary update sequence element #" ++ toString position ++ " has length " ++
      toString length ++ "; 2 is required"
  | badNumeral text =>
    "invalid literal for int() with base 10: " ++
      String.ofList ((Text.quote text).take maxShown)
  | longNumeral digits =>
    "Exceeds the limit (4300 digits) for integer string conversion: value has " ++
      toString digits ++ " digits; use sys.set_int_max_str_digits() to increase the limit"
  | unwritableNumber =>
    "Exceeds the limit (4300 digits) for integer string conversion; " ++
      "use sys.set_int_max_str_digits() to increase the limit"
  | wideNumber => "Python int too large to convert to SQLite INTEGER"
  | infiniteInteger => "cannot convert float infinity to integer"
  | undefinedInteger => "cannot convert float NaN to integer"
  | tooDeep within =>
    "maximum recursion depth exceeded while decoding a JSON " ++ within ++ " from a unicode string"
  | unencodable position [half] =>
    "'utf-8' codec can't encode character '\\u" ++ String.ofList (Text.hexDigits 4 half.unit) ++
      "' in position " ++ toString position ++ ": surrogates not allowed"
  | unencodable position halves =>
    "'utf-8' codec can't encode characters in position " ++ toString position ++ "-" ++
      toString (position + halves.length - 1) ++ ": surrogates not allowed"
  | unsendableNumber => "Out of range float values are not JSON compliant"

end Fault

def Text.encoded : Text → Except Fault String
  | .whole s => .ok s
  | .broken s h t => .error (.unencodable s.length (h :: t.leadingHalves))

end Automation
