import Automation.Blueprint.Basic

/-!
This module contains the placeholders of blueprints: the tokens between double braces in parameters,
mappers and routes that are left to be filled in.
-/

namespace Automation

namespace Placeholder

def isBrace (g : Glyph) : Bool :=
  g == .char '\x7b' || g == .char '\x7d'

def trim (inner : List Glyph) : List Glyph :=
  -- Of blanks alone the last one is left.
  match Text.stripWhere (Text.isBlank ·.shape) inner with
  | [] => inner.drop (inner.length - 1)
  | token => token

def at? : List Glyph → Option (List Glyph × List Glyph)
  | .char '\x7b' :: .char '\x7b' :: gs =>
    let inner := gs.takeWhile (!isBrace ·)
    match inner, gs.dropWhile (!isBrace ·) with
    | [], _ => none
    | _ :: _, .char '\x7d' :: .char '\x7d' :: rest => some (trim inner, rest)
    | _, _ => none
  | _ => none

def inText (t : Text) : List Text :=
  go 0 t.glyphs
where
  -- The next `skip` glyphs belong to the last token.
  go (skip : Nat) : List Glyph → List Text
    | [] => []
    | g :: gs =>
      match skip with
      | skip + 1 => go skip gs
      | 0 =>
        match at? (g :: gs) with
        | some (token, rest) => Text.ofGlyphs token :: go (gs.length - rest.length) gs
        | none => go 0 gs

mutual

def inJson : Json → List Text
  -- The names of fields hold no tokens.
  | .string t => inText t
  | .array xs => inItems xs
  | .object fs => inFields fs
  | _ => []

def inItems : List Json → List Text
  | [] => []
  | x :: xs => inJson x ++ inItems xs

def inFields : Fields → List Text
  | [] => []
  | (_, x) :: fs => inJson x ++ inFields fs

end

def inNode (n : Node) : List Text :=
  -- Tokens in the metadata do not count.
  let routes := (n.routes.getD []).map Route.toJson
  inFields n.parameters ++ inJson n.mapper ++ inItems routes

end Placeholder

namespace Blueprint

def placeholders (b : Blueprint) : List Text :=
  (b.nodes.flatMap Placeholder.inNode).eraseDups.mergeSort Text.precedes

end Blueprint

end Automation
