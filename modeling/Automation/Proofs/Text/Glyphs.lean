import Automation.Text.Basic

/-!
This module contains laws of the glyphs of texts: those of joined texts are joined, and those of a
text that was made of glyphs are the same.
-/

namespace Automation

namespace Text

theorem glyphs_append (s t : Text) : (s ++ t).glyphs = s.glyphs ++ t.glyphs := by
  change (s.append t).glyphs = _
  induction s with
  | whole s => cases t <;> simp [append, glyphs]
  | broken s h s' ih => simp [append, glyphs, ih]

theorem eq_of_glyphs {s t : Text} (h : s.glyphs = t.glyphs) : s = t := by
  rw [← ofGlyphs_glyphs s, h, ofGlyphs_glyphs]

theorem glyphs_ofGlyphs (gs : List Glyph) : (ofGlyphs gs).glyphs = gs := by
  have hgo (run : List Char) : (ofGlyphs.go run gs).glyphs = run.reverse.map .char ++ gs := by
    induction gs generalizing run with
    | nil => simp [ofGlyphs.go, glyphs]
    | cons g gs ih => cases g <;> simp [ofGlyphs.go, glyphs, ih]
  exact hgo []

theorem glyphs_intercalate (separator : Text) (ts : List Text) :
    (intercalate separator ts).glyphs = separator.glyphs.intercalate (ts.map glyphs) := by
  induction ts using intercalate.induct with
  | case1 => rfl
  | case2 t => simp [intercalate]
  | case3 t ts hts ih =>
    cases ts with
    | nil => exact absurd rfl hts
    | cons u ts =>
      rw [intercalate, glyphs_append, glyphs_append, ih]
      . simp only [List.map_cons, List.intercalate_cons_cons]
      . exact hts

end Text

namespace Glyph

theorem chars?_map_char (cs : List Char) : chars? (cs.map .char) = some cs := by
  induction cs with
  | nil => rfl
  | cons c cs ih => rw [chars?] at ih ⊢; simp [List.mapM_cons, ih, char?]

theorem count_map_char (c : Char) (cs : List Char) :
    (cs.map char).count (char c) = cs.count c := by
  induction cs with
  | nil => rfl
  | cons d cs ih => simp [List.count_cons, ih]

end Glyph

end Automation
