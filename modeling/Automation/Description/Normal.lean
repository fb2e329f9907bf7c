import Automation.Text.Blank
import Automation.Text.Case

/-!
This module contains the normal form of descriptions: their words in lower case, parted by single
spaces.
-/

namespace Automation.Description

def normal (cs : List Char) : List Char :=
  Text.lower (Text.joinWords (Text.words cs))

def normalize (text : String) : String :=
  String.ofList (normal text.toList)

end Automation.Description
