import Automation.Console.Command

/-!
This module contains the reading of command lines. Options may stand before or after the arguments
of their command; what follows two dashes is no option.
-/

namespace Automation.Console

inductive Request where
  | compose (options : ComposeOptions) (catalogFile : Option String)
  | validate (path : String)
  deriving Repr, DecidableEq

structure Invocation where
  request : Request
  verbose : Bool
  deriving Repr, DecidableEq

namespace Arguments

structure Parts where
  options : List (String × String) := []
  arguments : List String := []
  verbose : Bool := false
  deriving Repr, DecidableEq

def optionNames : List (String × String) := [
  ("--name", "name"),
  ("-n", "name"),
  ("--output", "output"),
  ("-o", "output"),
  ("--catalog", "catalog")
]

def parts (found : Parts) : List String → Parts
  | [] => found
  | "--" :: args => { found with arguments := found.arguments ++ args }
  | "--verbose" :: args => parts { found with verbose := true } args
  | "-v" :: args => parts { found with verbose := true } args
  | arg :: value :: args =>
    match optionNames.lookup arg with
    | some name => parts { found with options := (name, value) :: found.options } args
    | none => parts { found with arguments := found.arguments ++ [arg] } (value :: args)
  | [arg] => { found with arguments := found.arguments ++ [arg] }

def read? (args : List String) : Option Invocation :=
  let found := parts {} args
  match found.arguments with
  | ["compose", description] =>
    let options : ComposeOptions := {
      description
      name := found.options.lookup "name"
      target := found.options.lookup "output" }
    some ⟨.compose options (found.options.lookup "catalog"), found.verbose⟩
  | ["validate", path] => some ⟨.validate path, found.verbose⟩
  | _ => none

def usage : String :=
  "Usage: blueprint-composer [--verbose] compose DESCRIPTION [--name NAME] [--output FILE] " ++
    "[--catalog FILE]\n       blueprint-composer validate FILE"

end Arguments

end Automation.Console
