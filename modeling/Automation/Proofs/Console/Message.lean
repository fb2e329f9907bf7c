import Automation.Console.Command
import Automation.Proofs.Console.Shown
import Automation.Proofs.Console.Style
import Automation.Proofs.Json.Sendable
import Automation.Proofs.Outcome

/-!
This module contains the messages of commands. Whatever is told, telling of a failure fails and
never crashes; a text is told as it is where markup shows it so, and a message can be printed unless
there is a lone half in it.
-/

namespace Automation

namespace Console

open Json (Unbroken)
open Markup (IsStyle IsBullet IsFaithful bracketed marked escape styleName)

section Bullets

theorem styleName_of_isColorWord {w : List Char} (h : Style.IsColorWord w) :
    styleName (w.map .char) = .ok (w.map .char) := by
  rw [styleName, Glyph.chars?_map_char]
  simp only [Style.normalize_of_isColorWord h]

def markStyles : List (List Char) :=
  ["red".toList, "green".toList, "yellow".toList]

theorem isStyle_of_mem {w : List Char} (h : w ∈ markStyles) : IsStyle (w.map .char) := by
  have hword : Style.IsColorWord w := by
    rw [markStyles, List.mem_cons, List.mem_cons, List.mem_singleton] at h
    obtain rfl | rfl | rfl := h <;>
      exact ⟨Text.isBlankFree_of_all (by decide) (by decide), by decide +kernel, by decide,
        by decide, by decide⟩
  rw [markStyles, List.mem_cons, List.mem_cons, List.mem_singleton] at h
  obtain rfl | rfl | rfl := h <;>
    exact ⟨⟨by decide, by decide⟩, ⟨by decide, by decide⟩, by decide +kernel,
      by decide +kernel, styleName_of_isColorWord hword⟩

theorem isBullet_title : IsBullet [] ("red".toList.map .char) '✗' where
  isStyle := isStyle_of_mem (by decide)
  isLead := nofun
  isMark := by decide
  shown := by decide +kernel

theorem isBullet_error : IsBullet [.char ' ', .char ' '] ("red".toList.map .char) '•' where
  isStyle := isStyle_of_mem (by decide)
  isLead := by decide
  isMark := by decide
  shown := by decide +kernel

theorem isBullet_valid : IsBullet [] ("green".toList.map .char) '✓' where
  isStyle := isStyle_of_mem (by decide)
  isLead := nofun
  isMark := by decide
  shown := by decide +kernel

end Bullets

section Failure

theorem shown_eq_iff {markup t : Text} :
    shown markup = .ok (t ++ Text.whole "\n") ↔ Markup.render markup.glyphs = .ok t.glyphs := by
  have hline (gs : List Glyph) : Text.ofGlyphs (gs ++ [.char '\n']) = t ++ Text.whole "\n" ↔
      gs = t.glyphs := by
    have hglyphs : (t ++ Text.whole "\n").glyphs = t.glyphs ++ [.char '\n'] :=
      Text.glyphs_append t "\n"
    constructor
    . intro h
      rw [← h, Text.glyphs_ofGlyphs, List.append_cancel_right_eq] at hglyphs
      exact hglyphs
    . intro h
      rw [h, ← hglyphs, Text.ofGlyphs_glyphs]
  rw [shown]
  cases Markup.render markup.glyphs with
  | ok gs => simp [hline]
  | error f => simp

theorem glyphs_title (t : Text) : ("[red]✗[/red] " ++ plain t : Text).glyphs =
    marked ("red".toList.map .char) '✗' (escape t.glyphs) := by
  rw [Text.glyphs_append, plain, Text.glyphs_ofGlyphs]
  rfl

theorem glyphs_error (t : Text) : ("  [red]•[/red] " ++ plain t : Text).glyphs =
    [.char ' ', .char ' '] ++ marked ("red".toList.map .char) '•' (escape t.glyphs) := by
  rw [Text.glyphs_append, plain, Text.glyphs_ofGlyphs]
  rfl

theorem shown_title_iff {t : Text} :
    shown ("[red]✗[/red] " ++ plain t) = .ok ("✗ " ++ t ++ Text.whole "\n") ↔
      IsFaithful t.glyphs := by
  rw [shown_eq_iff, glyphs_title, Text.glyphs_append]
  exact Markup.render_marked_iff isBullet_title t.glyphs

theorem shown_error_iff {t : Text} :
    shown ("  [red]•[/red] " ++ plain t) = .ok ("  • " ++ t ++ Text.whole "\n") ↔
      IsFaithful t.glyphs := by
  rw [shown_eq_iff, glyphs_error, Text.glyphs_append]
  exact Markup.render_marked_iff isBullet_error t.glyphs

theorem exists_shown {lead style : List Glyph} {mark : Char} (h : IsBullet lead style mark)
    {markup : Text} {gs rest : List Glyph}
    (hmarkup : markup.glyphs = lead ++ marked style mark (escape gs ++ rest))
    (hrest : ∀ g ∈ rest, Markup.isBracket g = false ∧ Emoji.isFixed g = false) :
    ∃ t, shown markup = .ok t ∧ (t.isWhole = true ↔ Unbroken gs) := by
  obtain ⟨us, hrender, hhalves⟩ := Markup.exists_render_marked h gs hrest
  rw [← hmarkup] at hrender
  refine ⟨.ofGlyphs (us ++ [.char '\n']), by rw [shown, hrender], ?_⟩
  rw [Unbroken.isWhole_ofGlyphs_iff, Unbroken.iff_forall_half, Unbroken.iff_forall_half]
  simp [hhalves]

theorem exists_shown_error (t : Text) :
    ∃ u, shown ("  [red]•[/red] " ++ plain t) = .ok u ∧
      (u.isWhole = true ↔ Unbroken t.glyphs) :=
  exists_shown isBullet_error (by rw [glyphs_error, List.append_nil]) (List.forall_mem_nil _)

theorem exists_shown_title (t : Text) :
    ∃ u, shown ("[red]✗[/red] " ++ plain t) = .ok u ∧
      (u.isWhole = true ↔ Unbroken t.glyphs) :=
  exists_shown isBullet_title (by rw [glyphs_title, List.append_nil]; rfl) (List.forall_mem_nil _)

/-- Telling of a failure fails, and only that. -/
theorem exists_fail (o : Outcome) (title : String) (errors : List Text) :
    ∃ told, o.fail title errors = { o with errors := told, ending := .failed } := by
  have htexts : ∃ texts, (("[red]✗[/red] " ++ plain title : Text) ::
      errors.map fun e => "  [red]•[/red] " ++ plain e).mapM shown = .ok texts := by
    apply exists_mapM
    rw [List.forall_mem_cons, List.forall_mem_map]
    exact ⟨(exists_shown_title title).imp fun _ h => h.1,
      fun e _ => (exists_shown_error e).imp fun _ h => h.1⟩
  obtain ⟨texts, htexts⟩ := htexts
  rw [Outcome.fail]
  simp only [htexts]
  exact ⟨_, rfl⟩

def failureText (title : String) (errors : List String) : String :=
  "✗ " ++ title ++ "\n" ++ String.join (errors.map fun e => "  • " ++ e ++ "\n")

theorem nameHalves_join (ss : List String) :
    nameHalves (Text.join (ss.map .whole)) = String.join ss := by
  have hjoin : Text.join (ss.map .whole) = .whole (String.join ss) := by
    induction ss with
    | nil => rfl
    | cons s ss ih => rw [List.map_cons, Text.join, ih, String.join_cons, Text.whole_append]
  rw [hjoin]
  rfl

theorem mapM_shown_errors {errors : List String} (h : ∀ e ∈ errors, IsFaithful (Text.glyphs e)) :
    ((errors.map Text.whole).map fun e => "  [red]•[/red] " ++ plain e).mapM shown =
      .ok ((errors.map fun e => "  • " ++ e ++ "\n").map .whole) := by
  induction errors with
  | nil => rfl
  | cons e errors ih =>
    rw [List.forall_mem_cons] at h
    rw [List.map_cons, List.map_cons, List.mapM_cons, shown_error_iff.mpr h.1, ih h.2]
    rfl

theorem fail_eq {title : String} {errors : List String} (htitle : IsFaithful (Text.glyphs title))
    (h : ∀ e ∈ errors, IsFaithful (Text.glyphs e)) :
    Outcome.fail {} title (errors.map .whole) =
      { errors := failureText title errors, ending := .failed } := by
  have htold := nameHalves_join
    (("✗ " ++ title ++ "\n") :: errors.map fun e => "  • " ++ e ++ "\n")
  rw [String.join_cons] at htold
  rw [Outcome.fail]
  simp only [List.mapM_cons, shown_title_iff.mpr htitle, mapM_shown_errors h, bind, Except.bind,
    pure, Except.pure]
  rw [failureText, ← htold]
  rfl

theorem nameHalves_append (s : String) (t : Text) :
    nameHalves (.whole s ++ t) = s ++ nameHalves t := by
  cases t with
  | whole => rfl
  | broken u h v =>
    change nameHalves (.broken (s ++ u) h v) = _
    simp only [nameHalves, String.append_assoc]

/-- What is told of a failure starts with its title, whatever the errors. -/
theorem exists_fail_titled {title : String} (htitle : IsFaithful (Text.glyphs title)) (o : Outcome)
    (errors : List Text) : ∃ told, o.fail title errors =
      { o with errors := o.errors ++ ("✗ " ++ title ++ "\n" ++ told), ending := .failed } := by
  obtain ⟨texts, htexts⟩ : ∃ texts,
      (errors.map fun e => "  [red]•[/red] " ++ plain e).mapM shown = .ok texts := by
    apply exists_mapM
    rw [List.forall_mem_map]
    exact fun e _ => (exists_shown_error e).imp fun _ h => h.1
  have htold := nameHalves_append ("✗ " ++ title ++ "\n") (Text.join texts)
  refine ⟨nameHalves (Text.join texts), ?_⟩
  rw [Outcome.fail]
  simp only [List.mapM_cons, shown_title_iff.mpr htitle, htexts, bind, Except.bind, pure,
    Except.pure]
  rw [← htold]
  rfl

theorem errors_fail {title : String} (htitle : IsFaithful (Text.glyphs title)) (e : String) :
    ∃ told, shown ("  [red]•[/red] " ++ plain e) = .ok (.whole told) ∧
      (Outcome.fail {} title [e]).errors = "✗ " ++ title ++ "\n" ++ told := by
  obtain ⟨u, hu, hwhole⟩ := exists_shown_error e
  obtain ⟨told, rfl⟩ := Text.eq_whole_of_isWhole (hwhole.mpr (Unbroken.chars e.toList))
  refine ⟨told, hu, ?_⟩
  have hjoin := nameHalves_join ["✗ " ++ title ++ "\n", told]
  rw [String.join_cons, String.join_cons, String.join_nil, String.append_empty] at hjoin
  rw [Outcome.fail]
  simp only [List.map_cons, List.map_nil, List.mapM_cons, List.mapM_nil, shown_title_iff.mpr htitle,
    hu, bind, Except.bind, pure, Except.pure]
  rw [← hjoin]
  rfl

theorem errors_fail_iff {title : String} (htitle : IsFaithful (Text.glyphs title)) {e : String} :
    (Outcome.fail {} title [e]).errors = failureText title [e] ↔ IsFaithful (Text.glyphs e) := by
  obtain ⟨told, hshown, herrors⟩ := errors_fail htitle e
  rw [← shown_error_iff, hshown, herrors, failureText]
  simp [String.join_cons]

end Failure

section Printable

def IsPrintable (m : Text) : Prop :=
  ∃ s, printed m = .ok s

theorem isPrintable_of_render {m : Text} {gs : List Glyph} (h : Markup.render m.glyphs = .ok gs)
    (hgs : Unbroken gs) : IsPrintable m := by
  have hline : Unbroken (gs ++ [.char '\n']) := hgs.append (.char '\n')
  obtain ⟨s, hs⟩ := Text.eq_whole_of_isWhole hline.isWhole_ofGlyphs
  refine ⟨s, ?_⟩
  rw [printed, shown, h]
  simp only [bind, Except.bind, hs]
  rfl

theorem glyphs_of_printed {m : Text} {s : String} (h : printed m = .ok s) :
    ∃ gs, Markup.render m.glyphs = .ok gs ∧ Text.glyphs s = gs ++ [.char '\n'] := by
  rw [printed, shown] at h
  cases hrender : Markup.render m.glyphs with
  | error f =>
    rw [hrender] at h
    cases h
  | ok gs =>
    rw [hrender] at h
    refine ⟨gs, rfl, ?_⟩
    have hglyphs := Text.glyphs_ofGlyphs (gs ++ [.char '\n'])
    cases htext : Text.ofGlyphs (gs ++ [.char '\n']) with
    | whole text =>
      simp only [bind, Except.bind, htext] at h
      cases h
      rw [← hglyphs, htext]
    | broken before half after =>
      simp only [bind, Except.bind, htext] at h
      cases h

/-- Messages add to the output and may end the command, and that is all. -/
theorem exists_say (o : Outcome) (ms : List Text) :
    ∃ output ending, o.say ms = { o with output, ending } := by
  induction ms generalizing o with
  | nil => exact ⟨o.output, o.ending, rfl⟩
  | cons m ms ih =>
    unfold Outcome.say
    split
    . exact ih _
    . exact ⟨o.output, _, rfl⟩

theorem ending_say {o : Outcome} (h : o.ending = .succeeded) (ms : List Text) :
    (o.say ms).ending = .succeeded ↔ ∀ m ∈ ms, IsPrintable m := by
  induction ms generalizing o with
  | nil => exact iff_of_true h (List.forall_mem_nil _)
  | cons m ms ih =>
    rw [List.forall_mem_cons, IsPrintable, Outcome.say]
    cases printed m with
    | error crash => simp [Outcome.crash]
    | ok s =>
      rw [and_iff_right ⟨s, rfl⟩]
      exact ih h

end Printable

end Console

end Automation
