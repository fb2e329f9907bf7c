/-!
This module contains texts. Code units of 16 bits encode some characters by the two halves of a
pair, and an escape can name a half that has no other half beside it. A text holds such lone halves
in their places between its characters; it can then be quoted and escaped, but not encoded. Without
any it is a string, and stands wherever a string may stand.
-/

namespace Automation

structure LoneHalf where
  place : Fin 0x800
  deriving Repr, DecidableEq

namespace LoneHalf

def unit (h : LoneHalf) : Nat :=
  0xD800 + h.place

end LoneHalf

inductive Glyph where
  | char (c : Char)
  | half (h : LoneHalf)
  deriving Repr, DecidableEq

namespace Glyph

def ofUnit (unit : Nat) : Glyph :=
  if h : 0xD800 ≤ unit ∧ unit < 0xE000 then half ⟨⟨unit - 0xD800, by omega⟩⟩
  else char (Char.ofNat unit)

def code : Glyph → Nat
  | char c => c.toNat
  | half h => h.unit

def shape : Glyph → Char
  -- A half is no letter, digit or blank, and neither is the replacement character.
  | char c => c
  | half _ => '\ufffd'

def char? : Glyph → Option Char
  | char c => some c
  | half _ => none

def chars? (gs : List Glyph) : Option (List Char) :=
  gs.mapM char?

end Glyph

/-- A string, or a string, the half that comes after it, and the text after that. -/
inductive Text where
  | whole (s : String)
  | broken (before : String) (half : LoneHalf) (after : Text)
  deriving Repr, DecidableEq

instance : Coe String Text where
  coe := .whole

instance : Inhabited Text where
  default := .whole ""

namespace Text

def glyphs : Text → List Glyph
  | whole s => s.toList.map .char
  | broken s h t => s.toList.map .char ++ .half h :: t.glyphs

def ofGlyphs (gs : List Glyph) : Text :=
  go [] gs
where
  -- `run` are the characters since the last half, backwards.
  go (run : List Char) : List Glyph → Text
    | [] => whole (String.ofList run.reverse)
    | .char c :: gs => go (c :: run) gs
    | .half h :: gs => broken (String.ofList run.reverse) h (go [] gs)

theorem ofGlyphs_go_map (run cs : List Char) (gs : List Glyph) :
    ofGlyphs.go run (cs.map .char ++ gs) = ofGlyphs.go (cs.reverse ++ run) gs := by
  induction cs generalizing run with
  | nil => rfl
  | cons c cs ih => simp [ofGlyphs.go, ih]

@[simp]
theorem ofGlyphs_glyphs (t : Text) : ofGlyphs t.glyphs = t := by
  induction t with
  | whole s =>
    simpa [glyphs, ofGlyphs, ofGlyphs.go] using ofGlyphs_go_map [] s.toList []
  | broken s h t ih =>
    rw [glyphs, ofGlyphs, ofGlyphs_go_map]
    simp only [List.append_nil, ofGlyphs.go, List.reverse_reverse, String.ofList_toList]
    exact congrArg _ ih

def whole? : Text → Option String
  | whole s => some s
  | broken .. => none

def isEmpty : Text → Bool
  | whole s => s.isEmpty
  | broken .. => false

def append : Text → Text → Text
  | whole s, whole t => whole (s ++ t)
  | whole s, broken t h u => broken (s ++ t) h u
  | broken s h t, u => broken s h (t.append u)

instance : Append Text where
  append := append

@[simp]
theorem whole_append (s t : String) : whole s ++ whole t = whole (s ++ t) := rfl

def join : List Text → Text
  | [] => ""
  | t :: ts => t ++ join ts

def intercalate (separator : Text) : List Text → Text
  | [] => ""
  | [t] => t
  | t :: ts => t ++ separator ++ intercalate separator ts

def precedes (s t : Text) : Bool :=
  !t.glyphs.lex s.glyphs fun g h => g.code < h.code

def leadingHalves : Text → List LoneHalf
  | whole _ => []
  | broken s h t => if s.isEmpty then h :: t.leadingHalves else []

end Text

end Automation
