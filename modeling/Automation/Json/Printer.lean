import Automation.Json.Basic
import Automation.Number.Shortest
import Automation.Text.Numeral
import Automation.Text.Quoted

/-!
This module contains the writing of values as document texts: in ASCII on one line or with each
element and field on a line of its own, and with all characters as they are and no blanks.
-/

namespace Automation.Json

def unitEscape (unit : Nat) : List Char :=
  '\\' :: 'u' :: Text.hexDigits 4 unit

def writeCharWith (other : Char → List Char) (c : Char) : List Char :=
  if c = '"' then ['\\', '"']
  else if c = '\\' then ['\\', '\\']
  else if c = '\n' then ['\\', 'n']
  else if c = '\r' then ['\\', 'r']
  else if c = '\t' then ['\\', 't']
  else if c = '\x0c' then ['\\', 'f']
  else if c = '\x08' then ['\\', 'b']
  else if c.toNat < 0x20 then unitEscape c.toNat
  else other c

def writeAscii (c : Char) : List Char :=
  if c.toNat ≤ 0x7E then [c]
  else if c.toNat < 0x10000 then unitEscape c.toNat
  else
    let n := c.toNat - 0x10000
    unitEscape (0xD800 + n / 0x400) ++ unitEscape (0xDC00 + n % 0x400)

def writeGlyph : Glyph → List Char
  | .char c => writeCharWith writeAscii c
  | .half h => unitEscape h.unit

def writeText (t : Text) : List Char :=
  '"' :: t.glyphs.flatMap writeGlyph ++ ['"']

def keepGlyph : Glyph → List Glyph
  | .char c => (writeCharWith (fun c => [c]) c).map .char
  | .half h => [.half h]

def keepText (t : Text) : List Glyph :=
  .char '"' :: t.glyphs.flatMap keepGlyph ++ [.char '"']

def writeReal : Binary64 → List Char
  | .infinite negative => (if negative then "-Infinity" else "Infinity").toList
  | .undefined => "NaN".toList
  | x => x.text

def writeScalar : Json → List Char
  | null => "null".toList
  | bool b => (if b then "true" else "false").toList
  | int n => (toString n).toList
  | real x => writeReal x
  | string t => writeText t
  | array _ => ['[', ']']
  | object _ => ['\x7b', '\x7d']

def newLine (depth : Nat) : List Char :=
  '\n' :: List.replicate (2 * depth) ' '

mutual

def writeLines (depth : Nat) : Json → List Char
  | array (x :: xs) =>
    '[' :: newLine (depth + 1) ++ writeLines (depth + 1) x ++ writeItemLines (depth + 1) xs ++
      newLine depth ++ [']']
  | object ((k, x) :: fs) =>
    '\x7b' :: newLine (depth + 1) ++ writeText k ++ ':' :: ' ' :: writeLines (depth + 1) x ++
      writeFieldLines (depth + 1) fs ++ newLine depth ++ ['\x7d']
  | v => writeScalar v

def writeItemLines (depth : Nat) : List Json → List Char
  | [] => []
  | x :: xs => ',' :: newLine depth ++ writeLines depth x ++ writeItemLines depth xs

def writeFieldLines (depth : Nat) : Fields → List Char
  | [] => []
  | (k, x) :: fs =>
    ',' :: newLine depth ++ writeText k ++ ':' :: ' ' :: writeLines depth x ++
      writeFieldLines depth fs

end

def lines (v : Json) : String :=
  String.ofList (v.writeLines 0)

mutual

/-- The text of a value on one line, with a gap after each mark: `char` writes the characters of
marks and `quote` the texts. -/
def writeInline (char : Char → α) (gap : List α) (quote : Text → List α) : Json → List α
  | array (x :: xs) =>
    char '[' :: writeInline char gap quote x ++ writeItems char gap quote xs ++ [char ']']
  | object ((k, x) :: fs) =>
    char '\x7b' :: quote k ++ char ':' :: gap ++ writeInline char gap quote x ++
      writeFields char gap quote fs ++ [char '\x7d']
  | string t => quote t
  | v => (writeScalar v).map char

def writeItems (char : Char → α) (gap : List α) (quote : Text → List α) : List Json → List α
  | [] => []
  | x :: xs => char ',' :: gap ++ writeInline char gap quote x ++ writeItems char gap quote xs

def writeFields (char : Char → α) (gap : List α) (quote : Text → List α) : Fields → List α
  | [] => []
  | (k, x) :: fs =>
    char ',' :: gap ++ quote k ++ char ':' :: gap ++ writeInline char gap quote x ++
      writeFields char gap quote fs

end

def line (v : Json) : String :=
  String.ofList (v.writeInline id [' '] writeText)

def compact (v : Json) : Text :=
  Text.ofGlyphs (v.writeInline .char [] keepText)

mutual

def sorted : Json → Json
  | array xs => array (sortedItems xs)
  | object fs => object ((sortedFields fs).mergeSort fun f g => Text.precedes f.1 g.1)
  | v => v

def sortedItems : List Json → List Json
  | [] => []
  | x :: xs => x.sorted :: sortedItems xs

def sortedFields : Fields → Fields
  | [] => []
  | (k, x) :: fs => (k, x.sorted) :: sortedFields fs

end

mutual

def isWritable : Json → Bool
  | int n => n.natAbs < tenTo Text.maxDigits
  | array xs => areWritable xs
  | object fs => haveWritable fs
  | _ => true

def areWritable : List Json → Bool
  | [] => true
  | x :: xs => x.isWritable && areWritable xs

def haveWritable : Fields → Bool
  | [] => true
  | (_, x) :: fs => x.isWritable && haveWritable fs

end

end Automation.Json
