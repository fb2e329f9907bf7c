import Automation.Proofs.Console.Shown

/-!
This module contains texts in which no bracket opens. They have no markup of their own: they are
shown alone, and so they are within and after a style, whatever else is in them.
-/

namespace Automation.Console.Markup

def IsUnmarked (gs : List Glyph) : Prop :=
  .char '[' ∉ gs

section Parts

/-- The text is parsed into glyphs, but backslashes at its end are kept for what comes next. -/
theorem parts_go_unmarked {gs : List Glyph} (h : IsUnmarked gs) (n : Nat) (rest : List Glyph) :
    ∃ k us, backslashes n ++ gs = us ++ backslashes k ∧
      parts.go 0 n (gs ++ rest) = us.map .glyph ++ parts.go 0 k rest := by
  induction gs generalizing n with
  | nil => exact ⟨n, [], List.append_nil _, rfl⟩
  | cons g gs ih =>
    rw [IsUnmarked, List.mem_cons, not_or] at h
    by_cases hg : g = .char '\\'
    . obtain ⟨k, us, hus, hparts⟩ := ih h.2 (n + 1)
      refine ⟨k, us, ?_, ?_⟩
      . rw [hg, ← backslashes_succ, hus]
      . rw [hg, ← hparts]
        rfl
    . obtain ⟨k, us, hus, hparts⟩ := ih h.2 0
      refine ⟨k, backslashes n ++ g :: us, ?_, ?_⟩
      . rw [List.append_assoc, List.cons_append, ← hus]
        rfl
      . rw [List.cons_append, parts_go_glyph hg (by simp [Ne.symm h.1]), hparts]
        simp

theorem parts_unmarked {gs : List Glyph} (h : IsUnmarked gs) : parts gs = gs.map .glyph := by
  obtain ⟨k, us, hus, hparts⟩ := parts_go_unmarked h 0 []
  rw [List.append_nil] at hparts
  have hgs : gs = us ++ backslashes k := hus
  rw [parts, hparts, hgs, List.map_append]
  rfl

theorem pieces_map_glyph (gs : List Glyph) : pieces (gs.map .glyph) = [.plain gs] := by
  have hpieces := pieces_go_glyphs [] gs []
  rw [List.append_nil] at hpieces
  rw [pieces, hpieces, pieces.go, List.append_nil, List.reverse_reverse]

theorem render_unmarked {gs : List Glyph} (h : IsUnmarked gs) :
    render gs = .ok (expandTabs (showPlain gs)) := by
  have hnil : showPieces [] [] = .ok ([], []) := rfl
  rw [render, parts_unmarked h, pieces_map_glyph, showPieces_cons hnil, List.append_nil]
  rfl

end Parts

section Styled

variable {style inner outer : List Glyph}

def styled (style inner outer : List Glyph) : List Glyph :=
  bracketed style ++ (inner ++ (bracketed (.char '/' :: style) ++ outer))

/-- What is shown where a style is closed, unless backslashes make the end of it plain. -/
def shownEnd (style outer : List Glyph) (backslashes : Nat) : List Glyph :=
  (if backslashes % 2 = 0 then [] else showPlain (bracketed (.char '/' :: style))) ++
    showPlain outer

theorem showPieces_end (h : IsStyle style) (k : Nat) :
    showPieces [⟨style, none⟩] [if k % 2 = 0 then Piece.ofTag (.char '/' :: style)
      else .plain (bracketed (.char '/' :: style)), .plain outer] =
        .ok (shownEnd style outer k, [⟨style, none⟩]) := by
  have hplain (tags : List OpenTag) : showPieces tags [.plain outer] = .ok (showPlain outer, tags) := by
    have hshown := showPieces_map_plain tags [outer]
    rwa [List.flatMap_singleton] at hshown
  unfold shownEnd
  split
  . have hcheck : OpenTag.checkClosing ⟨style, none⟩ = .ok () := by
      simp [OpenTag.checkClosing, pure, Except.pure]
    rw [h.closing, showPieces, h.closeTag_eq]
    simp only [bind, Except.bind, hcheck, hplain]
    rfl
  . exact showPieces_cons (hplain _) _

/-- Of the text within the style a run of backslashes at its end is told by half. -/
theorem pieces_styled (h : IsStyle style) (hinner : IsUnmarked inner) (houter : IsUnmarked outer) :
    ∃ k us, inner = us ++ backslashes k ∧ pieces (parts (styled style inner outer)) =
      .plain [] :: .plain [] :: .opening style none :: .plain us :: .plain (backslashes (k / 2)) ::
        [if k % 2 = 0 then Piece.ofTag (.char '/' :: style)
          else .plain (bracketed (.char '/' :: style)), .plain outer] := by
  obtain ⟨k, us, hus, hparts⟩ := parts_go_unmarked hinner 0 (bracketed (.char '/' :: style) ++ outer)
  have hrest : parts.go 0 k (bracketed (.char '/' :: style) ++ outer) =
      .tag k (.char '/' :: style) :: outer.map .glyph := by
    rw [parts_go_tag h.isClosingTag, ← parts_unmarked houter]
    rfl
  refine ⟨k, us, hus, ?_⟩
  rw [parts, styled, parts_go_tag h.isTag, hparts, hrest, pieces, pieces.go, tagPieces, h.opening,
    pieces_go_glyphs, pieces.go, tagPieces, ← pieces, pieces_map_glyph]
  simp [backslashes]

theorem showPieces_styled (h : IsStyle style) (hinner : IsUnmarked inner)
    (houter : IsUnmarked outer) : ∃ k us, inner = us ++ backslashes k ∧
      showPieces [] (pieces (parts (styled style inner outer))) =
        .ok (showPlain us ++ (showPlain (backslashes (k / 2)) ++ shownEnd style outer k),
          [⟨style, none⟩]) := by
  obtain ⟨k, us, hus, hpieces⟩ := pieces_styled h hinner houter
  have hend : showPieces [⟨style, none⟩] _ = .ok (shownEnd style outer k, _) := showPieces_end h k
  have hstart : showPieces [] (.opening style none :: .plain us ::
      .plain (backslashes (k / 2)) :: [if k % 2 = 0 then Piece.ofTag (.char '/' :: style)
        else .plain (bracketed (.char '/' :: style)), .plain outer]) =
          .ok (showPlain us ++ (showPlain (backslashes (k / 2)) ++ shownEnd style outer k),
            [⟨style, none⟩]) := by
    rw [showPieces, h.styleName]
    exact showPieces_cons (showPieces_cons hend (backslashes (k / 2))) us
  refine ⟨k, us, hus, ?_⟩
  rw [hpieces]
  exact showPieces_cons (showPieces_cons hstart []) []

theorem exists_render_styled (h : IsStyle style) (hinner : IsUnmarked inner)
    (houter : IsUnmarked outer) : ∃ shown, render (styled style inner outer) = .ok shown ∧
      ∀ half, .half half ∈ shown → .half half ∈ styled style inner outer := by
  obtain ⟨k, us, hus, hshown⟩ := showPieces_styled h hinner houter
  have hchecks : [⟨style, none⟩].forM OpenTag.check = .ok () := by
    rw [List.forM, h.check_eq]
    rfl
  refine ⟨expandTabs (showPlain us ++ (showPlain (backslashes (k / 2)) ++
    shownEnd style outer k)), ?_, ?_⟩
  . rw [render, hshown]
    simp only [bind, Except.bind]
    rw [hchecks]
    rfl
  . intro half hmem
    rw [mem_expandTabs (by simp), List.mem_append, List.mem_append, shownEnd, List.mem_append,
      mem_showPlain rfl, mem_showPlain rfl, mem_showPlain rfl] at hmem
    have hslash : .half half ∉ backslashes (k / 2) := by
      intro h
      cases List.eq_of_mem_replicate h
    simp only [styled, hus, List.mem_append]
    rcases hmem.1 with hmem | hmem | hmem | hmem
    . exact .inr (.inl (.inl hmem))
    . exact absurd hmem hslash
    . split at hmem
      . cases hmem
      . rw [mem_showPlain rfl] at hmem
        exact .inr (.inr (.inl hmem))
    . exact .inr (.inr (.inr hmem))

end Styled

end Automation.Console.Markup
