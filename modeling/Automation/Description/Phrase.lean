import Automation.Text.Word

/-!
This module contains the search for phrases in texts in normal form. A phrase is found at a word
start, which is any place that has no word character before it.
-/

namespace Automation.Description

def after? (phrase cs : List Char) : Option (List Char) :=
  if phrase.isPrefixOf cs then some (cs.drop phrase.length) else none

def afterWord? (phrase cs : List Char) : Option (List Char) :=
  (after? phrase cs).filter fun rest => !Text.startsInWord rest

def afterAnyWord? (phrases : List (List Char)) (cs : List Char) : Option (List Char) :=
  phrases.findSome? fun phrase => afterWord? phrase cs

/--
The shortest part of a text, from its start and not empty, that `stop` accepts the rest after, and
what `stop` makes of the rest.
-/
def shortest (stop : List Char → Option α) : List Char → Option (List Char × α)
  | [] => none
  | c :: cs =>
    match stop cs with
    | some a => some ([c], a)
    | none => (shortest stop cs).map fun (span, a) => (c :: span, a)

def search (f : List Char → Option α) (cs : List Char) : Option α :=
  go false cs
where
  -- `inWord` says whether a word character stands before the text.
  go (inWord : Bool) : List Char → Option α
    | [] => none
    | c :: cs =>
      match if inWord then none else f (c :: cs) with
      | some a => some a
      | none => go (Text.isWord c) cs

/--
What `f` makes of a text at all word starts, from left to right. It answers with a result and the
rest of the text, from which the search goes on.
-/
def searchAll (f : List Char → Option (α × List Char)) (cs : List Char) : List α :=
  go 0 false cs
where
  -- The next `skip` characters belong to the last result.
  go (skip : Nat) (inWord : Bool) : List Char → List α
    | [] => []
    | c :: cs =>
      match skip with
      | skip + 1 => go skip (Text.isWord c) cs
      | 0 =>
        match if inWord then none else f (c :: cs) with
        | some (a, rest) => a :: go (cs.length - rest.length) (Text.isWord c) cs
        | none => go 0 (Text.isWord c) cs

end Automation.Description
