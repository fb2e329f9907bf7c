import Automation.Proofs.Text.Words

/-!
This module contains laws of stripping the ends of a text.
-/

namespace Automation.Text

theorem mem_dropWhile {p : α → Bool} {x : α} {xs : List α} (hx : x ∈ xs) (hp : p x = false) :
    x ∈ xs.dropWhile p := by
  induction xs with
  | nil => cases hx
  | cons y ys ih =>
    rw [List.dropWhile_cons]
    split
    . rename_i hy
      rcases List.mem_cons.1 hx with rfl | hx
      . rw [hp] at hy
        cases hy
      . exact ih hx
    . exact hx

theorem mem_stripWhere {p : α → Bool} {x : α} {xs : List α} (hx : x ∈ xs) (hp : p x = false) :
    x ∈ stripWhere p xs := by
  unfold stripWhere
  rw [List.mem_reverse]
  apply mem_dropWhile _ hp
  rw [List.mem_reverse]
  exact mem_dropWhile hx hp

theorem stripWhere_append {p : α → Bool} {pad : List α} (h : ∀ x ∈ pad, p x = true) (xs : List α) :
    stripWhere p (pad ++ xs) = stripWhere p xs := by
  rw [stripWhere, List.dropWhile_append_of_pos h]
  rfl

theorem dropWhile_eq_self {p : α → Bool} {xs : List α} (h : ∀ x ∈ xs.head?, p x = false) :
    xs.dropWhile p = xs := by
  cases xs with
  | nil => rfl
  | cons x xs =>
    apply List.dropWhile_cons_of_neg
    simp [h x rfl]

theorem stripWhere_eq_self {p : α → Bool} {xs : List α} (hhead : ∀ x ∈ xs.head?, p x = false)
    (hlast : ∀ x ∈ xs.getLast?, p x = false) : stripWhere p xs = xs := by
  rw [stripWhere, dropWhile_eq_self hhead, dropWhile_eq_self, List.reverse_reverse]
  rwa [List.head?_reverse]

theorem stripWhere_eq_nil_iff {p : α → Bool} {xs : List α} :
    stripWhere p xs = [] ↔ ∀ x ∈ xs, p x = true := by
  constructor
  . intro h x hx
    cases hp : p x with
    | true => rfl
    | false =>
      have hmem := mem_stripWhere hx hp
      rw [h] at hmem
      cases hmem
  . intro h
    have hdrop := stripWhere_append h []
    rwa [List.append_nil] at hdrop

theorem stripWhere_around {p : α → Bool} {before core after : List α}
    (hbefore : ∀ x ∈ before, p x = true) (hafter : ∀ x ∈ after, p x = true) (hne : core ≠ [])
    (hhead : ∀ x ∈ core.head?, p x = false) (hlast : ∀ x ∈ core.getLast?, p x = false) :
    stripWhere p (before ++ core ++ after) = core := by
  have hdrop : (core ++ after).dropWhile p = core ++ after := by
    obtain ⟨x, core, rfl⟩ := List.exists_cons_of_ne_nil hne
    exact dropWhile_eq_self hhead
  rw [List.append_assoc, stripWhere_append hbefore, stripWhere, hdrop, List.reverse_append,
    List.dropWhile_append_of_pos (by simpa using hafter), dropWhile_eq_self, List.reverse_reverse]
  rwa [List.head?_reverse]

section Trimmed

structure IsTrimmed (marks cs core : List Char) : Prop where
  around : ∃ before after, cs = before ++ core ++ after ∧ (∀ c ∈ before, c ∈ marks) ∧
    ∀ c ∈ after, c ∈ marks
  head : ∀ c ∈ core.head?, c ∉ marks
  last : ∀ c ∈ core.getLast?, c ∉ marks

theorem exists_append_stripWhere (p : α → Bool) (xs : List α) :
    ∃ after, xs.dropWhile p = stripWhere p xs ++ after ∧ ∀ x ∈ after, p x = true := by
  refine ⟨((xs.dropWhile p).reverse.takeWhile p).reverse, ?_, ?_⟩
  . rw [stripWhere, ← List.reverse_append, List.takeWhile_append_dropWhile, List.reverse_reverse]
  . intro x hx
    exact List.all_eq_true.1 List.all_takeWhile x (List.mem_reverse.1 hx)

theorem exists_around_stripWhere (p : α → Bool) (xs : List α) :
    ∃ before after, xs = before ++ stripWhere p xs ++ after ∧ (∀ x ∈ before, p x = true) ∧
      ∀ x ∈ after, p x = true := by
  obtain ⟨after, hdrop, hafter⟩ := exists_append_stripWhere p xs
  refine ⟨xs.takeWhile p, after, ?_, fun x hx => ?_, hafter⟩
  . rw [List.append_assoc, ← hdrop, List.takeWhile_append_dropWhile]
  . exact List.all_eq_true.1 List.all_takeWhile x hx

theorem stripWhere_within (p : α → Bool) (xs : List α) : stripWhere p xs <:+: xs := by
  obtain ⟨before, after, hxs, -⟩ := exists_around_stripWhere p xs
  exact ⟨before, after, hxs.symm⟩

theorem getLast?_stripWhere {p : α → Bool} {x : α} {xs : List α}
    (hx : x ∈ (stripWhere p xs).getLast?) : p x = false := by
  rw [stripWhere, List.getLast?_reverse] at hx
  have hhead := List.head?_dropWhile_not p (xs.dropWhile p).reverse
  rw [hx] at hhead
  simpa using hhead

theorem head?_stripWhere {p : α → Bool} {x : α} {xs : List α}
    (hx : x ∈ (stripWhere p xs).head?) : p x = false := by
  obtain ⟨after, hdrop, -⟩ := exists_append_stripWhere p xs
  have hhead := List.head?_dropWhile_not p xs
  rw [hdrop, List.head?_append, hx] at hhead
  simpa using hhead

theorem isTrimmed_stripWhere {p : Char → Bool} {marks : List Char}
    (h : ∀ c, p c = true ↔ c ∈ marks) (cs : List Char) :
    IsTrimmed marks cs (stripWhere p cs) := by
  have hnot : ∀ c, p c = false → c ∉ marks := by
    intro c hc hmem
    rw [← h, hc] at hmem
    cases hmem
  obtain ⟨before, after, hcs, hbefore, hafter⟩ := exists_around_stripWhere p cs
  refine ⟨⟨before, after, hcs, ?_, ?_⟩, ?_, ?_⟩
  . exact fun c hc => (h c).1 (hbefore c hc)
  . exact fun c hc => (h c).1 (hafter c hc)
  . exact fun c hc => hnot c (head?_stripWhere hc)
  . exact fun c hc => hnot c (getLast?_stripWhere hc)

end Trimmed

theorem head?_joinWords {ws : List (List Char)} (h : ∀ w ∈ ws, w ≠ []) {c : Char}
    (hc : c ∈ (joinWords ws).head?) : ∃ w ∈ ws, c ∈ w := by
  cases ws with
  | nil => cases hc
  | cons w ws =>
    obtain ⟨r, -, hjoin⟩ := joinWords_cons_breaks w ws
    obtain ⟨d, w, rfl⟩ := List.exists_cons_of_ne_nil (h w (List.mem_cons_self ..))
    rw [hjoin] at hc
    cases hc
    exact ⟨_, List.mem_cons_self .., List.mem_cons_self ..⟩

theorem getLast?_joinWords {ws : List (List Char)} (h : ∀ w ∈ ws, w ≠ []) {c : Char}
    (hc : c ∈ (joinWords ws).getLast?) : ∃ w ∈ ws, c ∈ w := by
  obtain ⟨ys, hys⟩ := List.getLast?_eq_some_iff.1 hc
  have hsuffix : [c] <:+ joinWords ws := ⟨ys, hys.symm⟩
  rcases suffix_joinWords hsuffix (by simp) with ⟨w, hw, d, hd, r, heq⟩ | ⟨w, hw, r, -, heq⟩
  . rw [List.cons.injEq] at heq
    exact ⟨w, hw, heq.1 ▸ hd⟩
  . rw [List.cons.injEq, eq_comm, eq_comm (a := []), List.append_eq_nil_iff] at heq
    exact absurd heq.2.1 (h w hw)

theorem strip_joinWords {ws : List (List Char)} (h : ∀ w ∈ ws, IsBlankFree w) :
    strip (joinWords ws) = joinWords ws := by
  apply stripWhere_eq_self
  . intro c hc
    obtain ⟨w, hw, hcw⟩ := head?_joinWords (fun w hw => (h w hw).ne_nil) hc
    exact (h w hw).isBlank c hcw
  . intro c hc
    obtain ⟨w, hw, hcw⟩ := getLast?_joinWords (fun w hw => (h w hw).ne_nil) hc
    exact (h w hw).isBlank c hcw

theorem strip_of_isBlankFree {w : List Char} (h : IsBlankFree w) : strip w = w := by
  have hall : ∀ v ∈ [w], IsBlankFree v := by simpa using h
  have hstrip := strip_joinWords hall
  rwa [joinWords_singleton] at hstrip

end Automation.Text
