/-!
This module contains the comparison of texts with ASCII words where case does not count. Some
letters beyond ASCII differ from an ASCII letter in nothing but case.
-/

namespace Automation.Text

def caselessTwins : List (Char × List Char) :=
  [('i', ['ı', 'İ']), ('k', ['\u212a']), ('s', ['ſ'])]

def isLetter (letter c : Char) : Bool :=
  c == letter || c == letter.toUpper || ((caselessTwins.lookup letter).getD []).contains c

def takeCaseless : (word : List Char) → List Char → Option (List Char × List Char)
  | [], cs => some ([], cs)
  | _ :: _, [] => none
  | letter :: word, c :: cs =>
    if isLetter letter c then (takeCaseless word cs).map fun (found, rest) => (c :: found, rest)
    else none

end Automation.Text
