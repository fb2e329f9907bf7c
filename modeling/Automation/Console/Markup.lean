import Automation.Console.Emoji
import Automation.Console.Literal
import Automation.Console.Style
import Automation.Text.Width
import Automation.Text.Word

/-!
This module contains the markup of console messages. A tag in brackets opens or closes a style and
leaves no trace in what is shown; backslashes before a tag make it plain. `escape` makes any text
plain, and `render` shows a text without its markup.
-/

namespace Automation.Console.Markup

inductive Part where
  | glyph (g : Glyph)
  | tag (backslashes : Nat) (content : List Glyph)
  deriving Repr, DecidableEq

def startsTag (g : Glyph) : Bool :=
  g.shape.isLower || g == .char '#' || g == .char '/' || g == .char '@'

def isBracket (g : Glyph) : Bool :=
  g == .char '[' || g == .char ']'

def tagAt? : List Glyph → Option (List Glyph × List Glyph)
  | .char '[' :: g :: gs =>
    if startsTag g then
      match gs.dropWhile (!isBracket ·) with
      | .char ']' :: rest => some (g :: gs.takeWhile (!isBracket ·), rest)
      | _ => none
    else none
  | _ => none

def backslashes (n : Nat) : List Glyph :=
  List.replicate n (.char '\\')

def parts (gs : List Glyph) : List Part :=
  go 0 0 gs
where
  -- The next `skip` glyphs belong to the last tag; `pending` backslashes come first.
  go (skip pending : Nat) : List Glyph → List Part
    | [] => (backslashes pending).map .glyph
    | g :: gs =>
      match skip with
      | skip + 1 => go skip 0 gs
      | 0 =>
        if g = .char '\\' then go 0 (pending + 1) gs
        else
          match tagAt? (g :: gs) with
          | some (content, rest) => .tag pending content :: go (gs.length - rest.length) 0 gs
          | none => (backslashes pending).map .glyph ++ .glyph g :: go 0 0 gs

def bracketed (content : List Glyph) : List Glyph :=
  .char '[' :: content ++ [.char ']']

def escapePart : Part → List Glyph
  | .glyph g => [g]
  | .tag n content => backslashes (2 * n + 1) ++ bracketed content

def guardEnd (gs : List Glyph) : List Glyph :=
  -- A single backslash at the end must not escape what follows.
  match gs.reverse with
  | .char '\\' :: .char '\\' :: _ => gs
  | .char '\\' :: _ => gs ++ [.char '\\']
  | _ => gs

def escape (gs : List Glyph) : List Glyph :=
  guardEnd ((parts gs).flatMap escapePart)

inductive Piece where
  | plain (gs : List Glyph)
  | opening (name : List Glyph) (parameter : Option (List Glyph))
  | closing (name : List Glyph)
  deriving Repr, DecidableEq

def strip (gs : List Glyph) : List Glyph :=
  Text.stripWhere (Text.isBlank ·.shape) gs

def Piece.ofTag (content : List Glyph) : Piece :=
  match content.span (· != .char '=') with
  | (.char '/' :: name, _) => .closing (strip name)
  | (name, []) => .opening name none
  | (name, _ :: parameter) => .opening name (some parameter)

def tagPieces (n : Nat) (content : List Glyph) : List Piece :=
  -- Of the backslashes before a tag each two stand for one.
  .plain (backslashes (n / 2)) ::
    [if n % 2 = 0 then Piece.ofTag content else .plain (bracketed content)]

def pieces (ps : List Part) : List Piece :=
  go [] ps
where
  -- `run` is the plain text read so far, backwards.
  go (run : List Glyph) : List Part → List Piece
    | [] => [.plain run.reverse]
    | .glyph g :: ps => go (g :: run) ps
    | .tag n content :: ps => .plain run.reverse :: tagPieces n content ++ go [] ps

def unescapeBrackets : List Glyph → List Glyph
  | [] => []
  | .char '\\' :: .char '[' :: gs => .char '[' :: unescapeBrackets gs
  | g :: gs => g :: unescapeBrackets gs

def isControl (g : Glyph) : Bool :=
  ['\x07', '\x08', '\x0b', '\x0c', '\x0d'].contains g.shape

def showPlain (gs : List Glyph) : List Glyph :=
  (Emoji.replace (unescapeBrackets gs)).filter (!isControl ·)

inductive Fault where
  | unbalanced
  | badHandler
  | badStyle
  deriving Repr, DecidableEq

structure OpenTag where
  name : List Glyph
  parameter : Option (List Glyph)
  deriving Repr, DecidableEq

def styleName (name : List Glyph) : Except Fault (List Glyph) :=
  match Glyph.chars? name with
  | some cs =>
    match Style.normalize cs with
    | .ok cs => .ok (cs.map .char)
    | .error _ => .error .badStyle
  | none => .ok (strip name)

def isHandler (parameter : List Char) : Bool :=
  let cs := Text.strip parameter
  match cs.dropWhile fun c => Text.isWord c || c == '.' with
  | [] => true
  | '(' :: rest =>
    if rest.getLast? == some ')' && !rest.contains '\n' then isLiteral ('(' :: rest)
    else isLiteral cs
  | _ => isLiteral cs

def OpenTag.check (tag : OpenTag) : Except Fault Unit := do
  -- A tag of no style is passed over.
  let name := tag.name ++ ((tag.parameter.map (.char ' ' :: ·)).getD [])
  let _ ← styleName name

def OpenTag.checkClosing (tag : OpenTag) : Except Fault Unit :=
  let isBad (parameter : List Glyph) := !(Glyph.chars? parameter).any isHandler
  if tag.name.head? == some (.char '@') && tag.parameter.any isBad then throw .badHandler
  else return

def closeTag (tags : List OpenTag) (name : List Glyph) :
    Except Fault (OpenTag × List OpenTag) := do
  if name.isEmpty then
    match tags with
    -- An empty name closes the innermost tag.
    | [] => throw .unbalanced
    | tag :: tags => return (tag, tags)
  else
    let name ← styleName name
    match tags.find? (·.name == name) with
    | some tag => return (tag, tags.eraseP (·.name == name))
    | none => throw .unbalanced

def showPieces (tags : List OpenTag) : List Piece → Except Fault (List Glyph × List OpenTag)
  | [] => return ([], tags)
  | .plain gs :: ps => do
    let (shown, closed) ← showPieces tags ps
    return (showPlain gs ++ shown, closed)
  | .opening name parameter :: ps => do
    showPieces (⟨← styleName name, parameter⟩ :: tags) ps
  | .closing name :: ps => do
    let (tag, tags) ← closeTag tags name
    tag.checkClosing
    let (shown, closed) ← showPieces tags ps
    return (shown, tag :: closed)

def tabWidth : Nat := 8

def expandTabs (gs : List Glyph) : List Glyph :=
  go 0 [] gs
where
  -- The last tab led to `column`; `part` is what came after it, backwards.
  go (column : Nat) (part : List Glyph) : List Glyph → List Glyph
    | [] => part.reverse
    | g :: gs =>
      if g = .char '\t' then
        let part := part.reverse ++ [.char ' ']
        let reached := column + Text.cellsIn (part.map (·.shape))
        let missing := (tabWidth - reached % tabWidth) % tabWidth
        part ++ List.replicate missing (.char ' ') ++ go (reached + missing) [] gs
      else if g = .char '\n' then
        part.reverse ++ g :: go 0 [] gs
      else
        go column (g :: part) gs

def render (gs : List Glyph) : Except Fault (List Glyph) := do
  let (shown, tags) ← showPieces [] (pieces (parts gs))
  tags.forM OpenTag.check
  return expandTabs shown

end Automation.Console.Markup
