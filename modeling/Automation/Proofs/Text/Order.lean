import Automation.Proofs.Text.Glyphs

/-!
This module contains the order of texts. They are ordered as the lists of their code points are,
among which those of lone halves have places of their own, so that texts sorted without repetition
ascend strictly.
-/

namespace Automation

theorem Glyph.code_inj {g h : Glyph} : g.code = h.code ↔ g = h := by
  refine ⟨fun heq => ?_, congrArg code⟩
  cases g with
  | char c =>
    cases h with
    | char d => exact congrArg char (Char.toNat_inj.1 heq)
    | half k =>
      have hc := c.valid
      have hk := k.place.isLt
      simp only [code, LoneHalf.unit, Char.toNat] at heq
      unfold UInt32.isValidChar Nat.isValidChar at hc
      omega
  | half k =>
    cases h with
    | char d =>
      have hd := d.valid
      have hk := k.place.isLt
      simp only [code, LoneHalf.unit, Char.toNat] at heq
      unfold UInt32.isValidChar Nat.isValidChar at hd
      omega
    | half l =>
      have hplace : k.place = l.place := Fin.ext (Nat.add_left_cancel heq)
      exact congrArg (fun place => half ⟨place⟩) hplace

namespace Text

def codes (t : Text) : List Nat :=
  t.glyphs.map Glyph.code

theorem eq_of_codes {s t : Text} (h : s.codes = t.codes) : s = t := by
  apply eq_of_glyphs
  exact List.map_inj_right (fun _ _ => Glyph.code_inj.1) |>.1 h

/-- Whether a text stands before another one: where they first differ it has the smaller code, or it
ends there. -/
def Before (s t : Text) : Prop :=
  List.Lex (· < ·) s.codes t.codes

theorem lex_glyphs_iff {gs hs : List Glyph} : (gs.lex hs fun g h => g.code < h.code) = true ↔
    List.Lex (· < ·) (gs.map Glyph.code) (hs.map Glyph.code) := by
  induction gs generalizing hs with
  | nil => cases hs <;> simp
  | cons g gs ih =>
    cases hs with
    | nil => simp
    | cons h hs => simp [List.cons_lex_cons_iff, Glyph.code_inj, ih]

theorem precedes_iff {s t : Text} : precedes s t = true ↔ s.codes.le t.codes := by
  rw [precedes, Bool.not_eq_true', ← Bool.not_eq_true, lex_glyphs_iff]
  rfl

theorem precedes_trans (s t u : Text) (hst : precedes s t = true) (htu : precedes t u = true) :
    precedes s u = true := by
  rw [precedes_iff] at *
  exact List.le_trans hst htu

theorem precedes_total (s t : Text) : (precedes s t || precedes t s) = true := by
  rw [Bool.or_eq_true, precedes_iff, precedes_iff]
  exact List.le_total s.codes t.codes

theorem before_of_precedes {s t : Text} (h : precedes s t = true) (hne : s ≠ t) : s.Before t := by
  rcases List.le_iff_lt_or_eq.1 (precedes_iff.1 h) with hlt | heq
  . exact hlt
  . exact absurd (eq_of_codes heq) hne

theorem pairwise_mergeSort_precedes {ts : List Text} (h : ts.Nodup) :
    (ts.mergeSort precedes).Pairwise Before := by
  have hsorted := List.pairwise_mergeSort precedes_trans precedes_total ts
  have hnodup := (List.mergeSort_perm ts precedes).nodup_iff.2 h
  apply (hsorted.and hnodup).imp
  rintro s t ⟨hle, hne⟩
  exact before_of_precedes hle hne

end Text

end Automation
