import Automation.Text.Basic
import Automation.Text.Blank

/-!
This module contains the names that are made of the first words of a description, letters and digits
of ASCII kept.
-/

namespace Automation.Description

def isNameChar (c : Char) : Bool :=
  c.isAlphanum

def takeLimit (limit : Option Int) (xs : List α) : List α :=
  -- A negative limit counts from the end.
  match limit with
  | none => xs
  | some (.ofNat n) => xs.take n
  | some (.negSucc n) => xs.take (xs.length - (n + 1))

def nameOf (description : String) (limit : Option Int) : String :=
  -- Words that nothing is left of are gone after the second cut, so a name may be empty.
  let opening := Text.joinWords (takeLimit limit (Text.words description.toList))
  let kept := opening.filter fun c => isNameChar c || Text.isBlank c
  String.ofList (Text.joinWords (Text.words kept))

def deriveName (description : String) (limit : Option Int) (default : Text) : Text :=
  let name := nameOf description limit
  if name.isEmpty then default else name

end Automation.Description
