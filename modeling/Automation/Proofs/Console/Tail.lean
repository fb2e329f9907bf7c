import Automation.Proofs.Console.Message
import Automation.Proofs.Console.Tame

/-!
This module contains the ends of messages. Whatever comes before it, an end that means nothing to
the console is shown as it is, for what comes before can only take away what it ends itself.
-/

namespace Automation.Console

theorem segments_glyphs (run gs : List Glyph) :
    Markup.segments run (gs.map .glyph) = [run.reverse ++ gs] := by
  induction gs generalizing run with
  | nil => rw [List.append_nil]; rfl
  | cons g gs ih =>
    rw [List.map_cons, Markup.segments, ih, List.reverse_cons, List.append_assoc,
      List.singleton_append]

theorem exists_segments_append (ps : List Markup.Part) (run gs : List Glyph) : ∃ before last,
    Markup.segments run (ps ++ gs.map .glyph) = before ++ [last ++ gs] := by
  induction ps generalizing run with
  | nil => exact ⟨[], run.reverse, segments_glyphs run gs⟩
  | cons p ps ih =>
    cases p with
    | glyph g => exact ih (g :: run)
    | tag n content =>
      obtain ⟨before, last, hsegments⟩ := ih []
      rw [List.cons_append, Markup.segments, hsegments]
      exact ⟨run.reverse :: Markup.backslashes n :: Markup.bracketed content :: before, last, rfl⟩

def IsTail (gs : List Glyph) : Prop :=
  ∀ g ∈ gs, ∃ c : Char, g = .char c ∧ c ∉ ':' :: specialChars

namespace IsTail

variable {tail : List Glyph} (h : IsTail tail)
include h

theorem not_mem {c : Char} (hc : c ∈ ':' :: specialChars) : .char c ∉ tail := by
  intro hmem
  obtain ⟨d, heq, hd⟩ := h _ hmem
  cases heq
  exact hd hc

theorem unescapeBrackets_append (gs : List Glyph) :
    Markup.unescapeBrackets (gs ++ tail) = Markup.unescapeBrackets gs ++ tail := by
  have hslash : Glyph.char '\\' ∉ tail := h.not_mem (by decide)
  have hopen : Glyph.char '[' ∉ tail := h.not_mem (by decide)
  induction gs using Markup.unescapeBrackets.induct with
  | case1 =>
    rw [List.nil_append, Markup.unescapeBrackets_eq_self fun hwithin =>
      hslash (hwithin.subset (List.mem_cons_self ..))]
    rfl
  | case2 gs ih =>
    rw [List.cons_append, List.cons_append, Markup.unescapeBrackets, Markup.unescapeBrackets, ih]
    rfl
  | case3 g gs hg ih =>
    rw [List.cons_append, Markup.unescapeBrackets, Markup.unescapeBrackets, ih, List.cons_append]
    . exact hg
    . intro gs' hslash heq
      cases gs with
      | nil =>
        rw [List.nil_append] at heq
        rw [heq] at hopen
        exact hopen (List.mem_cons_self ..)
      | cons g' gs =>
        obtain ⟨rfl, -⟩ := List.cons.inj heq
        exact hg gs hslash rfl

theorem length_of_code {gs code rest : List Glyph}
    (heq : gs ++ tail = code ++ .char ':' :: rest) : code.length + 1 ≤ gs.length := by
  have hcolon : Glyph.char ':' ∉ tail := h.not_mem (by decide)
  rcases List.append_eq_append_iff.mp heq with ⟨code', -, htail⟩ | ⟨gs', rfl, hrest⟩
  . rw [htail] at hcolon
    simp at hcolon
  . cases gs' with
    | nil =>
      rw [List.nil_append] at hrest
      rw [← hrest] at hcolon
      exact absurd (List.mem_cons_self ..) hcolon
    | cons g gs =>
      rw [List.length_append, List.length_cons]
      omega

theorem exists_replace_go_append (gs : List Glyph) (skip : Nat) (shows : Bool)
    (hskip : skip ≤ gs.length) :
    ∃ shown, Emoji.replace.go skip shows (gs ++ tail) = shown ++ tail := by
  have hcolon : Glyph.char ':' ∉ tail := h.not_mem (by decide)
  induction gs generalizing skip shows with
  | nil =>
    rw [List.length_nil, Nat.le_zero] at hskip
    have hcodes : Emoji.IsCodeFree tail :=
      Emoji.isCodeFree_of_count (by rw [List.count_eq_zero.mpr hcolon]; decide)
    have hself := Emoji.replace_go_eq_self hcodes 0
    refine ⟨[], ?_⟩
    rw [hskip, List.nil_append]
    cases tail with
    | nil => rfl
    | cons g gs => exact hself
  | cons g gs ih =>
    rw [List.cons_append, List.length_cons] at *
    cases skip with
    | succ skip =>
      rw [Emoji.replace.go]
      split
      . obtain ⟨shown, hshown⟩ := ih skip true (by omega)
        exact ⟨g :: shown, by rw [hshown, List.cons_append]⟩
      . exact ih skip false (by omega)
    | zero =>
      rw [Emoji.replace.go]
      split
      . next code hcode =>
        obtain ⟨rest, heq, -⟩ := Emoji.exists_of_code? hcode
        have hlength := h.length_of_code (List.cons.inj heq).2
        split
        . next emoji _ =>
          obtain ⟨shown, hshown⟩ := ih (code.length + 1) false hlength
          exact ⟨emoji.map .char ++ shown, by rw [hshown, List.append_assoc]⟩
        . obtain ⟨shown, hshown⟩ := ih (code.length + 1) true hlength
          exact ⟨g :: shown, by rw [hshown, List.cons_append]⟩
      . obtain ⟨shown, hshown⟩ := ih 0 true (Nat.zero_le _)
        exact ⟨g :: shown, by rw [hshown, List.cons_append]⟩

theorem exists_showPlain_append (gs : List Glyph) :
    ∃ shown, Markup.showPlain (gs ++ tail) = shown ++ tail := by
  have hcontrol : ∀ g ∈ tail, (!Markup.isControl g) = true := by
    intro g hg
    obtain ⟨c, rfl, hc⟩ := h g hg
    simp only [specialChars, List.mem_cons, not_or] at hc
    simp [Markup.isControl, Glyph.shape, hc]
  obtain ⟨shown, hshown⟩ :=
    h.exists_replace_go_append (Markup.unescapeBrackets gs) 0 true (Nat.zero_le _)
  refine ⟨shown.filter (!Markup.isControl ·), ?_⟩
  rw [Markup.showPlain, h.unescapeBrackets_append, Emoji.replace, hshown, List.filter_append,
    List.filter_eq_self.mpr hcontrol]

theorem exists_expandTabs_go_append (gs part : List Glyph) (column : Nat) :
    ∃ shown, Markup.expandTabs.go column part (gs ++ tail) = shown ++ tail := by
  induction gs generalizing part column with
  | nil => exact ⟨part.reverse, Markup.expandTabs_go_eq (h.not_mem (by decide)) column part⟩
  | cons g gs ih =>
    rw [List.cons_append, Markup.expandTabs.go]
    split
    . dsimp only
      obtain ⟨shown, hshown⟩ := ih [] _
      rw [hshown, ← List.append_assoc]
      exact ⟨_, rfl⟩
    . split
      . obtain ⟨shown, hshown⟩ := ih [] 0
        exact ⟨part.reverse ++ g :: shown, by rw [hshown, List.append_assoc, List.cons_append]⟩
      . exact ih (g :: part) column

theorem exists_shownParts_append (ps : List Markup.Part) :
    ∃ shown, Markup.shownParts (ps ++ tail.map .glyph) = shown ++ tail := by
  obtain ⟨before, last, hsegments⟩ := exists_segments_append ps [] tail
  obtain ⟨shown, hshown⟩ := h.exists_showPlain_append last
  refine ⟨before.flatMap Markup.showPlain ++ shown, ?_⟩
  rw [Markup.shownParts, hsegments, List.flatMap_append, List.flatMap_singleton, hshown,
    List.append_assoc]

theorem isBracket {g : Glyph} (hg : g ∈ tail) : Markup.isBracket g = false := by
  obtain ⟨c, rfl, hc⟩ := h g hg
  simp only [specialChars, List.mem_cons, not_or] at hc
  simp [Markup.isBracket, hc]

/-- After a mark and an escaped text the end is shown as it is. -/
theorem exists_render_marked {lead style : List Glyph} {mark : Char}
    (hbullet : Markup.IsBullet lead style mark) (gs : List Glyph) {rest : List Glyph}
    (hrest : ∀ g ∈ rest, Markup.isBracket g = false) : ∃ shown,
      Markup.render (lead ++ Markup.marked style mark (Markup.escape gs ++ (rest ++ tail))) =
        .ok (shown ++ tail) := by
  have hbrackets : ∀ g ∈ rest ++ tail, Markup.isBracket g = false := by
    rw [List.forall_mem_append]
    exact ⟨hrest, fun _ => h.isBracket⟩
  have hparts : Markup.plainParts gs (rest ++ tail) =
      Markup.plainParts gs rest ++ tail.map .glyph := by
    rw [Markup.plainParts, Markup.plainParts, ← List.append_assoc, List.map_append,
      List.append_assoc]
  obtain ⟨parts, hshown⟩ := h.exists_shownParts_append (Markup.plainParts gs rest)
  obtain ⟨shown, hexpanded⟩ :=
    h.exists_expandTabs_go_append (lead ++ .char mark :: .char ' ' :: parts) [] 0
  refine ⟨shown, ?_⟩
  rw [Markup.render_marked hbullet gs hbrackets, hparts, hshown, ← hexpanded]
  simp [Markup.expandTabs]

end IsTail

end Automation.Console
