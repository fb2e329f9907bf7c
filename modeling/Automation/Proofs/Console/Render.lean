import Automation.Proofs.Console.Markup

/-!
This module contains the rendering of escaped texts: it never fails, and what it shows comes from
segments that make up the text. After a mark in a style the same segments are shown.
-/

namespace Automation.Console.Markup

section Segments

def endGuard (gs : List Glyph) : List Glyph :=
  match gs.reverse with
  | .char '\\' :: .char '\\' :: _ => []
  | .char '\\' :: _ => [.char '\\']
  | _ => []

/-- The parts of an escaped text and what comes after it, as they were before they were escaped. -/
def plainParts (gs rest : List Glyph) : List Part :=
  parts gs ++ (endGuard ((parts gs).flatMap escapePart) ++ rest).map .glyph

/-- The plain texts between and within tags that are made plain, the first of them after `run`. -/
def segments (run : List Glyph) : List Part → List (List Glyph)
  | [] => [run.reverse]
  | .glyph g :: ps => segments (g :: run) ps
  | .tag n content :: ps => run.reverse :: backslashes n :: bracketed content :: segments [] ps

def shownParts (ps : List Part) : List Glyph :=
  (segments [] ps).flatMap showPlain

theorem guardEnd_eq (gs : List Glyph) : guardEnd gs = gs ++ endGuard gs := by
  unfold guardEnd endGuard
  split <;> simp [*]

theorem eq_of_mem_endGuard {gs : List Glyph} {g : Glyph} (h : g ∈ endGuard gs) :
    g = .char '\\' := by
  unfold endGuard at h
  split at h
  . cases h
  . exact List.mem_singleton.mp h
  . cases h

theorem endGuard_eq_nil {gs : List Glyph} (h : gs.getLast? ≠ some (.char '\\')) :
    endGuard gs = [] := by
  rw [← List.head?_reverse] at h
  unfold endGuard
  split
  . rfl
  . next heq =>
    rw [heq] at h
    exact absurd rfl h
  . rfl

theorem getLast?_escaped (ps : List Part) :
    (ps.flatMap escapePart).getLast? = (ps.flatMap Part.source).getLast? := by
  induction ps with
  | nil => rfl
  | cons p ps ih =>
    rw [List.flatMap_cons, List.flatMap_cons, List.getLast?_append, List.getLast?_append, ih]
    cases p with
    | glyph g => rfl
    | tag n content =>
      have hlast : (bracketed content).getLast? = some (.char ']') := List.getLast?_concat
      rw [escapePart, Part.source, List.getLast?_append, List.getLast?_append, hlast]
      rfl

theorem parts_go_escape (gs : List Glyph) {rest : List Glyph}
    (h : ∀ g ∈ rest, isBracket g = false) :
    parts.go 0 0 (escape gs ++ rest) = (plainParts gs rest).map Part.double := by
  rw [escape, guardEnd_eq, List.append_assoc, (parses_parts gs).parts_go_escaped, plainParts]
  rw [List.forall_mem_append]
  refine ⟨fun g hg => ?_, h⟩
  rw [eq_of_mem_endGuard hg]
  decide

theorem flatMap_source_plainParts (gs rest : List Glyph) :
    (plainParts gs rest).flatMap Part.source =
      gs ++ (endGuard ((parts gs).flatMap escapePart) ++ rest) := by
  rw [plainParts, List.flatMap_append, flatMap_source_glyphs, (parses_parts gs).flatMap_source]
  rfl

theorem flatten_segments (run : List Glyph) (ps : List Part) :
    (segments run ps).flatten = run.reverse ++ ps.flatMap Part.source := by
  induction ps generalizing run with
  | nil => simp [segments]
  | cons p ps ih => cases p <;> simp [segments, ih, Part.source]

theorem exists_segments (ps : List Part) :
    ∃ s ss, ∀ run, segments run ps = (run.reverse ++ s) :: ss := by
  induction ps with
  | nil => exact ⟨[], [], fun run => by rw [segments, List.append_nil]⟩
  | cons p ps ih =>
    cases p with
    | glyph g =>
      obtain ⟨s, ss, h⟩ := ih
      exact ⟨g :: s, ss, fun run => by simp [segments, h]⟩
    | tag n content => exact ⟨[], _, fun run => by rw [segments, List.append_nil]⟩

theorem pieces_go_double (run : List Glyph) (ps : List Part) :
    pieces.go run (ps.map Part.double) = (segments run ps).map .plain := by
  induction ps generalizing run with
  | nil => rfl
  | cons p ps ih =>
    cases p with
    | glyph g => exact ih (g :: run)
    | tag n content =>
      have hodd : (2 * n + 1) % 2 ≠ 0 := by omega
      have hhalf : (2 * n + 1) / 2 = n := by omega
      rw [List.map_cons, Part.double, pieces.go, tagPieces, if_neg hodd, hhalf, ih]
      rfl

theorem showPieces_cons {tags closed : List OpenTag} {ps : List Piece} {shown : List Glyph}
    (h : showPieces tags ps = .ok (shown, closed)) (gs : List Glyph) :
    showPieces tags (.plain gs :: ps) = .ok (showPlain gs ++ shown, closed) := by
  rw [showPieces, h]
  rfl

theorem showPieces_map_plain (tags : List OpenTag) (gss : List (List Glyph)) :
    showPieces tags (gss.map .plain) = .ok (gss.flatMap showPlain, tags) := by
  induction gss with
  | nil => rfl
  | cons gs gss ih => exact showPieces_cons ih gs

theorem render_escape (gs : List Glyph) :
    render (escape gs) = .ok (expandTabs (shownParts (plainParts gs []))) := by
  have hparts := parts_go_escape gs (List.forall_mem_nil _)
  rw [List.append_nil] at hparts
  rw [render, parts, hparts, pieces, pieces_go_double, showPieces_map_plain]
  rfl

end Segments

section Marks

structure IsStyle (style : List Glyph) : Prop where
  isTag : IsTag style
  isClosingTag : IsTag (.char '/' :: style)
  opening : Piece.ofTag style = .opening style none
  closing : Piece.ofTag (.char '/' :: style) = .closing style
  styleName : styleName style = .ok style

structure IsBullet (lead style : List Glyph) (mark : Char) : Prop where
  isStyle : IsStyle style
  isLead : ∀ g ∈ lead, g = .char ' '
  isMark : mark ≠ '\\' ∧ mark ≠ '[' ∧ mark ≠ '\t'
  shown : showPlain [.char mark] = [.char mark]

def marked (style : List Glyph) (mark : Char) (rest : List Glyph) : List Glyph :=
  bracketed style ++ .char mark :: (bracketed (.char '/' :: style) ++ .char ' ' :: rest)

variable {lead style : List Glyph} {mark : Char}

theorem IsStyle.ne_nil (h : IsStyle style) : style ≠ [] := by
  rintro rfl
  cases h.isTag.startsTag

theorem parts_go_lead (h : ∀ g ∈ lead, g = .char ' ') (rest : List Glyph) :
    parts.go 0 0 (lead ++ rest) = lead.map .glyph ++ parts.go 0 0 rest := by
  induction lead with
  | nil => rfl
  | cons g gs ih =>
    rw [List.forall_mem_cons] at h
    rw [List.cons_append, h.1, parts_go_glyph (by decide) rfl, ih h.2]
    rfl

theorem showPlain_space (gs : List Glyph) :
    showPlain (.char ' ' :: gs) = .char ' ' :: showPlain gs := rfl

theorem showPlain_lead (h : ∀ g ∈ lead, g = .char ' ') : showPlain lead = lead := by
  induction lead with
  | nil => rfl
  | cons g gs ih =>
    rw [List.forall_mem_cons] at h
    rw [h.1, showPlain_space, ih h.2]

theorem pieces_go_glyphs (run gs : List Glyph) (ps : List Part) :
    pieces.go run (gs.map .glyph ++ ps) = pieces.go (gs.reverse ++ run) ps := by
  induction gs generalizing run with
  | nil => rfl
  | cons g gs ih => rw [List.reverse_cons, List.append_assoc]; exact ih (g :: run)

theorem parts_go_marked (h : IsBullet lead style mark) (rest : List Glyph) :
    parts.go 0 0 (marked style mark rest) =
      .tag 0 style :: .glyph (.char mark) :: .tag 0 (.char '/' :: style) :: .glyph (.char ' ') ::
        parts.go 0 0 rest := by
  rw [marked, parts_go_tag h.isStyle.isTag, parts_go_glyph (by simp [h.isMark.1])
    (by simp [h.isMark.2.1]), parts_go_tag h.isStyle.isClosingTag, parts_go_glyph (by decide) rfl]
  rfl

theorem IsStyle.closeTag_eq (h : IsStyle style) :
    closeTag [⟨style, none⟩] style = .ok (⟨style, none⟩, []) := by
  rw [closeTag, if_neg (by simpa using h.ne_nil), h.styleName]
  simp [bind, Except.bind, pure, Except.pure]

theorem IsStyle.check_eq (h : IsStyle style) : OpenTag.check ⟨style, none⟩ = .ok () := by
  rw [OpenTag.check]
  simp only [Option.map_none, Option.getD_none, List.append_nil, h.styleName]
  rfl

theorem showPieces_marked (h : IsStyle style) (mark : Glyph) (gss : List (List Glyph)) :
    showPieces [] (.opening style none :: .plain [mark] :: .plain [] :: .closing style ::
      gss.map .plain) = .ok (showPlain [mark] ++ gss.flatMap showPlain, [⟨style, none⟩]) := by
  have hclosing : showPieces [⟨style, none⟩] (.closing style :: gss.map .plain) =
      .ok (gss.flatMap showPlain, [⟨style, none⟩]) := by
    have hcheck : OpenTag.checkClosing ⟨style, none⟩ = .ok () := by
      simp [OpenTag.checkClosing, pure, Except.pure]
    simp only [showPieces, h.closeTag_eq, bind, Except.bind, hcheck, showPieces_map_plain]
    rfl
  rw [showPieces, h.styleName]
  exact showPieces_cons (showPieces_cons hclosing []) [mark]

theorem pieces_go_marked (h : IsStyle style) (mark : Glyph) (run : List Glyph) (ps : List Part) :
    pieces.go run (.tag 0 style :: .glyph mark :: .tag 0 (.char '/' :: style) :: ps) =
      .plain run.reverse :: .plain [] :: .opening style none :: .plain [mark] :: .plain [] ::
        .closing style :: pieces.go [] ps := by
  simp only [pieces.go, tagPieces, h.opening, h.closing]
  rfl

theorem shownParts_space (ps : List Part) :
    shownParts (.glyph (.char ' ') :: ps) = .char ' ' :: shownParts ps := by
  obtain ⟨s, ss, h⟩ := exists_segments ps
  rw [shownParts, shownParts, segments, h, h, List.flatMap_cons, List.flatMap_cons]
  rfl

theorem render_marked (h : IsBullet lead style mark) (gs : List Glyph) {rest : List Glyph}
    (hrest : ∀ g ∈ rest, isBracket g = false) :
    render (lead ++ marked style mark (escape gs ++ rest)) =
      .ok (expandTabs (lead ++ .char mark :: .char ' ' :: shownParts (plainParts gs rest))) := by
  have hpieces : pieces.go [] (.glyph (.char ' ') :: (plainParts gs rest).map Part.double) =
      (segments [] (.glyph (.char ' ') :: plainParts gs rest)).map .plain :=
    pieces_go_double [] (.glyph (.char ' ') :: plainParts gs rest)
  have hshown := showPieces_marked h.isStyle (.char mark)
    (segments [] (.glyph (.char ' ') :: plainParts gs rest))
  have hchecks : [⟨style, none⟩].forM OpenTag.check = .ok () := by
    rw [List.forM, h.isStyle.check_eq]
    rfl
  rw [render, parts, parts_go_lead h.isLead, parts_go_marked h, parts_go_escape gs hrest, pieces,
    pieces_go_glyphs, pieces_go_marked h.isStyle, hpieces,
    showPieces_cons (showPieces_cons hshown [])]
  simp only [bind, Except.bind]
  rw [hchecks, List.append_nil, List.reverse_reverse, showPlain_lead h.isLead, h.shown,
    ← shownParts_space]
  rfl

end Marks

end Automation.Console.Markup
