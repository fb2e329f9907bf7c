import Automation.Proofs.Console.Render
import Automation.Proofs.Text.Words

/-!
This module contains what is left of plain texts when they are shown. The console puts emoji in
place of their codes, leaves out some backslashes and control characters and widens tabs; it never
takes or makes a lone half, and a quiet text is shown as it is.
-/

namespace Automation.Console

namespace Emoji

/-- Neither part of an emoji nor of a code for one. -/
def isFixed : Glyph → Bool
  | .char c => c == '\t'
  | .half _ => true

theorem isBlank_of_find? {name emoji : List Char} (h : find? name = some emoji) :
    ∀ c ∈ emoji, Text.isBlank c = false := by
  intro c hc
  rw [find?, List.lookup_eq_some_iff] at h
  obtain ⟨before, after, heq, -⟩ := h
  have hmem : (name, emoji) ∈ (Text.words namesText.toList).map splitEntry := by
    rw [heq]
    simp
  obtain ⟨word, hword, hsplit⟩ := List.mem_map.mp hmem
  rw [splitEntry, Prod.mk.injEq] at hsplit
  rw [← hsplit.2] at hc
  refine (Text.isBlankFree_of_mem_words hword).isBlank c ?_
  exact List.dropWhile_subset _ (List.drop_subset _ _ hc)

theorem isBlank_of_splitVariant (code : List Char) :
    ∀ c ∈ (splitVariant code).2, Text.isBlank c = false := by
  unfold splitVariant
  dsimp only
  split
  . next name c h =>
    have hall : ∀ v ∈ variants, Text.isBlank v.2 = false := by decide
    simpa using hall (name, c) (List.mem_of_find?_eq_some h)
  . simp

theorem isBlank_of_ofCode? {code emoji : List Char} (h : ofCode? code = some emoji) :
    ∀ c ∈ emoji, Text.isBlank c = false := by
  rw [ofCode?, Option.map_eq_some_iff] at h
  obtain ⟨found, hfound, rfl⟩ := h
  rw [List.forall_mem_append]
  exact ⟨isBlank_of_find? hfound, isBlank_of_splitVariant code⟩

theorem isFixed_of_isBlank {c : Char} (h : Text.isBlank c = false) : isFixed (.char c) = false := by
  rw [isFixed, beq_eq_false_iff_ne]
  rintro rfl
  exact absurd h (by decide)

theorem exists_of_code? {gs code : List Glyph} (h : code? gs = some code) :
    ∃ rest, gs = .char ':' :: (code ++ .char ':' :: rest) ∧ ∀ g ∈ code, isInCode g = true := by
  unfold code? at h
  split at h
  . next gs =>
    split at h
    . next rest hdrop =>
      cases h
      refine ⟨rest, ?_, List.all_eq_true.mp List.all_takeWhile⟩
      rw [← hdrop, List.takeWhile_append_dropWhile]
    . cases h
  . cases h

theorem isFixed_of_chars? {code : List Glyph} {cs : List Char} (h : Glyph.chars? code = some cs)
    (hcode : ∀ g ∈ code, isInCode g = true) : ∀ g ∈ code, isFixed g = false := by
  induction code generalizing cs with
  | nil => exact List.forall_mem_nil _
  | cons g code ih =>
    rw [Glyph.chars?, List.mapM_cons] at h
    obtain ⟨c, hc, h⟩ := Option.bind_eq_some_iff.mp h
    obtain ⟨cs', hcs, -⟩ := Option.bind_eq_some_iff.mp h
    rw [List.forall_mem_cons] at hcode ⊢
    refine ⟨?_, ih hcs hcode.2⟩
    cases g with
    | half half => cases hc
    | char c =>
      have hblank := hcode.1
      rw [isInCode, Bool.and_eq_true, Bool.not_eq_true'] at hblank
      exact isFixed_of_isBlank hblank.2

theorem filter_map_emoji {code emoji : List Char} (h : ofCode? code = some emoji) :
    (emoji.map Glyph.char).filter isFixed = [] := by
  rw [List.filter_eq_nil_iff]
  intro g hg
  obtain ⟨c, hc, rfl⟩ := List.mem_map.mp hg
  rw [isFixed_of_isBlank (isBlank_of_ofCode? h c hc)]
  exact Bool.false_ne_true

theorem filter_go_replace (gs : List Glyph) (skip : Nat) (shows : Bool)
    (h : shows = false → ∀ g ∈ gs.take skip, isFixed g = false) :
    (replace.go skip shows gs).filter isFixed = gs.filter isFixed := by
  induction gs generalizing skip shows with
  | nil => rfl
  | cons g gs ih =>
    cases skip with
    | succ skip =>
      cases shows with
      | true =>
        rw [replace.go, if_pos rfl, List.filter_cons, List.filter_cons, ih skip true nofun]
      | false =>
        have htake := h rfl
        rw [List.take_succ_cons, List.forall_mem_cons] at htake
        rw [replace.go, if_neg nofun, ih skip false fun _ => htake.2, List.filter_cons, htake.1]
        rfl
    | zero =>
      rw [replace.go]
      split
      . next code hcode =>
        obtain ⟨rest, heq, hin⟩ := exists_of_code? hcode
        obtain ⟨rfl, rfl⟩ := List.cons.inj heq
        split
        . next emoji hemoji =>
          rw [Option.bind_eq_some_iff] at hemoji
          obtain ⟨cs, hcs, hemoji⟩ := hemoji
          have htake : ∀ g ∈ (code ++ .char ':' :: rest).take (code.length + 1),
              isFixed g = false := by
            rw [List.take_length_add_append, List.forall_mem_append]
            exact ⟨isFixed_of_chars? hcs hin, by simp [isFixed]⟩
          rw [List.filter_append, filter_map_emoji hemoji, ih (code.length + 1) false fun _ => htake]
          rfl
        . rw [List.filter_cons, List.filter_cons, ih (code.length + 1) true nofun]
      . rw [List.filter_cons, List.filter_cons, ih 0 true nofun]

def IsCodeFree (gs : List Glyph) : Prop :=
  ∀ hs code, hs <:+ gs → code? hs = some code → (Glyph.chars? code).bind ofCode? = none

theorem code?_append {gs code : List Glyph} (h : code? gs = some code) (rest : List Glyph) :
    code? (gs ++ rest) = some code := by
  obtain ⟨after, rfl, hcode⟩ := exists_of_code? h
  have hcolon : ¬isInCode (.char ':') = true := by decide
  rw [List.cons_append, List.append_assoc, List.cons_append, code?,
    List.dropWhile_append_of_pos hcode, List.takeWhile_append_of_pos hcode,
    List.dropWhile_cons_of_neg hcolon, List.takeWhile_cons_of_neg hcolon, List.append_nil]
  rfl

theorem IsCodeFree.within {gs hs : List Glyph} (h : IsCodeFree gs) (hwithin : hs <:+: gs) :
    IsCodeFree hs := by
  intro us code hus hcode
  obtain ⟨before, after, rfl⟩ := hwithin
  obtain ⟨start, rfl⟩ := hus
  refine h (us ++ after) code ⟨before ++ start, ?_⟩ (code?_append hcode after)
  simp only [List.append_assoc]

theorem isCodeFree_of_count {gs : List Glyph} (h : gs.count (.char ':') ≤ 1) : IsCodeFree gs := by
  intro hs code hhs hcode
  obtain ⟨rest, rfl, -⟩ := exists_of_code? hcode
  have hle := hhs.sublist.count_le (.char ':')
  simp only [List.count_cons_self, List.count_append] at hle
  omega

theorem replace_go_eq_self {gs : List Glyph} (h : IsCodeFree gs) (skip : Nat) :
    replace.go skip true gs = gs := by
  induction gs generalizing skip with
  | nil => rfl
  | cons g gs ih =>
    have hgs : IsCodeFree gs := h.within (List.infix_cons (List.infix_refl gs))
    cases skip with
    | succ skip => rw [replace.go, if_pos rfl, ih hgs]
    | zero =>
      rw [replace.go]
      split
      . next code hcode =>
        simp only [h (g :: gs) code List.suffix_rfl hcode, ih hgs]
      . rw [ih hgs]

end Emoji

namespace Markup

open Emoji (isFixed)

section Plain

theorem filter_unescapeBrackets (gs : List Glyph) :
    (unescapeBrackets gs).filter isFixed = gs.filter isFixed := by
  induction gs using unescapeBrackets.induct with
  | case1 => rfl
  | case2 gs ih => rw [unescapeBrackets]; exact ih
  | case3 g gs h ih => rw [unescapeBrackets, List.filter_cons, List.filter_cons, ih]; exact h

theorem filter_showPlain (gs : List Glyph) :
    (showPlain gs).filter isFixed = gs.filter isFixed := by
  have hcontrol : ∀ g ∈ Emoji.replace (unescapeBrackets gs),
      (isFixed g && !isControl g) = isFixed g := by
    intro g _
    cases g with
    | half h => rfl
    | char c =>
      by_cases hc : c = '\t'
      . rw [hc]
        decide
      . rw [isFixed, beq_eq_false_iff_ne.mpr hc, Bool.false_and]
  rw [showPlain, List.filter_filter, List.filter_congr hcontrol, Emoji.replace,
    Emoji.filter_go_replace _ 0 true nofun, filter_unescapeBrackets]

/-- Without codes of emoji, backslashes that could escape a bracket or end the text, and characters
of control. -/
structure IsQuiet (gs : List Glyph) : Prop where
  isCodeFree : Emoji.IsCodeFree gs
  brackets : ¬[.char '\\', .char '['] <:+: gs
  getLast? : gs.getLast? ≠ some (.char '\\')
  isControl : ∀ g ∈ gs, isControl g = false ∧ g ≠ .char '\t'

theorem unescapeBrackets_eq_self {gs : List Glyph} (h : ¬[.char '\\', .char '['] <:+: gs) :
    unescapeBrackets gs = gs := by
  induction gs using unescapeBrackets.induct with
  | case1 => rfl
  | case2 gs ih => exact absurd (List.prefix_append _ gs).isInfix h
  | case3 g gs hg ih =>
    rw [unescapeBrackets, ih fun hwithin => h (List.infix_cons hwithin)]
    exact hg

theorem IsQuiet.showPlain_eq_self {gs hs : List Glyph} (h : IsQuiet gs) (hwithin : hs <:+: gs) :
    showPlain hs = hs := by
  have hbrackets : ¬[.char '\\', .char '['] <:+: hs := fun hhs => h.brackets (hhs.trans hwithin)
  rw [showPlain, unescapeBrackets_eq_self hbrackets, Emoji.replace,
    Emoji.replace_go_eq_self (h.isCodeFree.within hwithin), List.filter_eq_self]
  intro g hg
  rw [(h.isControl g (hwithin.subset hg)).1]
  rfl

theorem IsQuiet.shownParts_eq {gs : List Glyph} (h : IsQuiet gs) :
    shownParts (plainParts gs []) = gs := by
  have hguard : endGuard ((parts gs).flatMap escapePart) = [] := by
    apply endGuard_eq_nil
    rw [getLast?_escaped, (parses_parts gs).flatMap_source]
    exact h.getLast?
  have hflatten : (segments [] (plainParts gs [])).flatten = gs := by
    rw [flatten_segments, flatMap_source_plainParts, hguard]
    exact List.append_nil gs
  have hsegments : ∀ s ∈ segments [] (plainParts gs []), showPlain s = s := by
    intro s hs
    apply h.showPlain_eq_self
    rw [← hflatten]
    exact List.infix_of_mem_flatten hs
  rw [shownParts, List.flatMap, List.map_congr_left hsegments, List.map_id', hflatten]

theorem filter_shownParts (ps : List Part) :
    (shownParts ps).filter isFixed = (ps.flatMap Part.source).filter isFixed := by
  have hsegments (gss : List (List Glyph)) :
      (gss.flatMap showPlain).filter isFixed = gss.flatten.filter isFixed := by
    induction gss with
    | nil => rfl
    | cons gs gss ih =>
      rw [List.flatMap_cons, List.filter_append, filter_showPlain, ih, List.flatten_cons,
        List.filter_append]
  rw [shownParts, hsegments, flatten_segments]
  rfl

theorem mem_iff_of_filter {g : Glyph} (hg : isFixed g = true) {gs hs : List Glyph}
    (h : gs.filter isFixed = hs.filter isFixed) : g ∈ gs ↔ g ∈ hs := by
  have hiff : g ∈ gs.filter isFixed ↔ g ∈ hs.filter isFixed := by rw [h]
  simpa [List.mem_filter, hg] using hiff

theorem mem_showPlain {g : Glyph} (hg : isFixed g = true) (gs : List Glyph) :
    g ∈ showPlain gs ↔ g ∈ gs :=
  mem_iff_of_filter hg (filter_showPlain gs)

theorem mem_shownParts {g : Glyph} (hg : isFixed g = true) (gs rest : List Glyph) :
    g ∈ shownParts (plainParts gs rest) ↔ g ∈ gs ∨ g ∈ rest := by
  have hguard : g ∉ endGuard ((parts gs).flatMap escapePart) := by
    intro hmem
    rw [eq_of_mem_endGuard hmem] at hg
    exact absurd hg (by decide)
  rw [mem_iff_of_filter hg (filter_shownParts _), flatMap_source_plainParts, List.mem_append,
    List.mem_append]
  simp [hguard]

theorem mem_tab_shownParts {gs : List Glyph} :
    .char '\t' ∈ shownParts (plainParts gs []) ↔ .char '\t' ∈ gs := by
  rw [mem_shownParts rfl, or_iff_left List.not_mem_nil]

end Plain

section Tabs

theorem expandTabs_go_eq {gs : List Glyph} (h : .char '\t' ∉ gs) (column : Nat)
    (part : List Glyph) : expandTabs.go column part gs = part.reverse ++ gs := by
  induction gs generalizing column part with
  | nil => rw [List.append_nil]; rfl
  | cons g gs ih =>
    rw [List.mem_cons, not_or] at h
    rw [expandTabs.go, if_neg (Ne.symm h.1), ih h.2, ih h.2, List.reverse_cons, List.append_assoc]
    split <;> rfl

theorem expandTabs_eq_self {gs : List Glyph} (h : .char '\t' ∉ gs) : expandTabs gs = gs :=
  expandTabs_go_eq h 0 []

theorem mem_expandTabs_go {g : Glyph} (hg : g ≠ .char ' ') (column : Nat) (part gs : List Glyph) :
    g ∈ expandTabs.go column part gs ↔ g ∈ part ∨ g ∈ gs ∧ g ≠ .char '\t' := by
  induction gs generalizing column part with
  | nil => simp [expandTabs.go]
  | cons h gs ih =>
    rw [expandTabs.go]
    split
    . next htab =>
      simp only [List.mem_append, List.mem_reverse, List.mem_replicate, ih, hg, htab, List.mem_cons]
      grind
    . next htab =>
      split
      . next hline =>
        simp only [List.mem_append, List.mem_reverse, List.mem_cons, ih]
        grind
      . rw [ih, List.mem_cons, List.mem_cons]
        grind

theorem mem_expandTabs {g : Glyph} (hg : g ≠ .char ' ') (gs : List Glyph) :
    g ∈ expandTabs gs ↔ g ∈ gs ∧ g ≠ .char '\t' := by
  rw [expandTabs, mem_expandTabs_go hg]
  simp

theorem not_mem_tab_expandTabs (gs : List Glyph) : .char '\t' ∉ expandTabs gs := by
  rw [mem_expandTabs (by decide)]
  exact fun hmem => hmem.2 rfl

end Tabs

section Faithful

def IsFaithful (gs : List Glyph) : Prop :=
  render (escape gs) = .ok gs

theorem isFaithful_iff {gs : List Glyph} :
    IsFaithful gs ↔ .char '\t' ∉ gs ∧ shownParts (plainParts gs []) = gs := by
  rw [IsFaithful, render_escape, Except.ok.injEq]
  constructor
  . intro h
    have htab : .char '\t' ∉ gs := h ▸ not_mem_tab_expandTabs _
    rw [expandTabs_eq_self (by rwa [mem_tab_shownParts])] at h
    exact ⟨htab, h⟩
  . rintro ⟨htab, h⟩
    rw [h, expandTabs_eq_self htab]

theorem isFaithful_of_isQuiet {gs : List Glyph} (h : IsQuiet gs) : IsFaithful gs :=
  isFaithful_iff.mpr ⟨fun hmem => (h.isControl _ hmem).2 rfl, h.shownParts_eq⟩

variable {lead style : List Glyph} {mark : Char}

theorem IsBullet.mem_tab (h : IsBullet lead style mark) (rest : List Glyph) :
    .char '\t' ∈ lead ++ .char mark :: .char ' ' :: rest ↔ .char '\t' ∈ rest := by
  have hlead : .char '\t' ∉ lead := fun hmem => absurd (h.isLead _ hmem) (by decide)
  simp [hlead, h.isMark.2.2.symm]

theorem render_marked_iff (h : IsBullet lead style mark) (gs : List Glyph) :
    render (lead ++ marked style mark (escape gs)) = .ok (lead ++ .char mark :: .char ' ' :: gs) ↔
      IsFaithful gs := by
  have hrender := render_marked h gs (List.forall_mem_nil _)
  rw [List.append_nil] at hrender
  rw [hrender, Except.ok.injEq, isFaithful_iff]
  constructor
  . intro heq
    have htab : .char '\t' ∉ gs := by
      rw [← h.mem_tab, ← heq]
      exact not_mem_tab_expandTabs _
    rw [expandTabs_eq_self (by rwa [h.mem_tab, mem_tab_shownParts]),
      List.append_cancel_left_eq] at heq
    exact ⟨htab, (List.cons.inj (List.cons.inj heq).2).2⟩
  . rintro ⟨htab, hshown⟩
    rw [hshown, expandTabs_eq_self (by rwa [h.mem_tab])]

theorem exists_render_marked (h : IsBullet lead style mark) (gs : List Glyph) {rest : List Glyph}
    (hrest : ∀ g ∈ rest, isBracket g = false ∧ isFixed g = false) :
    ∃ shown, render (lead ++ marked style mark (escape gs ++ rest)) = .ok shown ∧
      ∀ half, .half half ∈ shown ↔ .half half ∈ gs := by
  refine ⟨_, render_marked h gs fun g hg => (hrest g hg).1, fun half => ?_⟩
  have hlead : .half half ∉ lead := fun hmem => nomatch h.isLead _ hmem
  have hrest' : .half half ∉ rest := fun hmem => nomatch (hrest _ hmem).2
  have hmem := mem_shownParts (g := .half half) rfl gs rest
  rw [or_iff_left hrest'] at hmem
  rw [mem_expandTabs (by simp)]
  simp [hlead, hmem]

end Faithful

end Markup

end Automation.Console
