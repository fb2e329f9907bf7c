import Mathlib.Data.List.Forall2

/-!
This module contains the inversion of outcomes: a computation in steps comes to a value only if each
of its steps does, and it fails where the first of them fails.
-/

namespace Automation

variable {ε α β γ : Type}

theorem bind_eq_ok {x : Except ε α} {f : α → Except ε β} {b : β} :
    x >>= f = .ok b ↔ ∃ a, x = .ok a ∧ f a = .ok b := by
  cases x <;> simp [bind, Except.bind]

theorem bind_eq_error {x : Except ε α} {f : α → Except ε β} {e : ε} :
    x >>= f = .error e ↔ x = .error e ∨ ∃ a, x = .ok a ∧ f a = .error e := by
  cases x <;> simp [bind, Except.bind]

theorem exists_bind_iff {x : Except ε α} {f : α → Except ε β} :
    (∃ b, x >>= f = .ok b) ↔ ∃ a, x = .ok a ∧ ∃ b, f a = .ok b := by
  cases x <;> simp [bind, Except.bind]

def failure? : Except ε α → Option ε
  | .ok _ => none
  | .error e => some e

theorem failure?_eq_none_iff {x : Except ε α} : failure? x = none ↔ ∃ a, x = .ok a := by
  cases x <;> simp [failure?]

theorem failure?_eq_some_iff {x : Except ε α} {e : ε} : failure? x = some e ↔ x = .error e := by
  cases x <;> simp [failure?]

theorem failure?_bind_pure (x : Except ε α) (f : α → β) :
    failure? (do return f (← x) : Except ε β) = failure? x := by
  cases x <;> rfl

/-- Steps fail for the first flaw in what they are taken over. -/
theorem failure?_foldlM {step : β → α → Except ε β} {flaws : α → List ε}
    (h : ∀ b a, failure? (step b a) = (flaws a).head?) (xs : List α) (b : β) :
    failure? (xs.foldlM step b) = (xs.flatMap flaws).head? := by
  induction xs generalizing b with
  | nil => rfl
  | cons x xs ih =>
    rw [List.foldlM_cons, List.flatMap_cons, List.head?_append, ← h b x]
    cases step b x with
    | ok c => exact ih c
    | error e => rfl

/-- Steps that are loops are one loop over what each of them runs over, as long as none fails. -/
theorem foldlM_flatMap_of_ok {step : β → α → Except ε β} {inner : β → γ → Except ε β}
    {parts : α → List γ}
    (h : ∀ b a b', step b a = .ok b' → (parts a).foldlM inner b = .ok b') {xs : List α} {b b' : β}
    (hxs : xs.foldlM step b = .ok b') : (xs.flatMap parts).foldlM inner b = .ok b' := by
  induction xs generalizing b with
  | nil => exact hxs
  | cons x xs ih =>
    rw [List.foldlM_cons] at hxs
    obtain ⟨c, hc, hxs⟩ := bind_eq_ok.1 hxs
    rw [List.flatMap_cons, List.foldlM_append, h b x c hc]
    exact ih hxs

theorem eq_ok_of_toOption {x : Except ε α} {a : α} (h : x.toOption = some a) : x = .ok a := by
  cases x with
  | ok b => rw [Option.some.inj h]
  | error e => cases h

theorem mapM_eq_ok_iff {f : α → Except ε β} {xs : List α} {ys : List β} :
    xs.mapM f = .ok ys ↔ List.Forall₂ (fun x y => f x = .ok y) xs ys := by
  induction xs generalizing ys with
  | nil =>
    rw [List.mapM_nil, List.forall₂_nil_left_iff]
    constructor
    . rintro ⟨⟩
      rfl
    . rintro rfl
      rfl
  | cons x xs ih =>
    rw [List.mapM_cons, bind_eq_ok, List.forall₂_cons_left_iff]
    constructor
    . rintro ⟨y, hy, h⟩
      obtain ⟨ys, hys, ⟨⟩⟩ := bind_eq_ok.1 h
      exact ⟨y, ys, hy, ih.1 hys, rfl⟩
    . rintro ⟨y, ys, hy, hys, rfl⟩
      exact ⟨y, hy, bind_eq_ok.2 ⟨ys, ih.2 hys, rfl⟩⟩

theorem exists_mapM {f : α → Except ε β} {xs : List α} (h : ∀ x ∈ xs, ∃ y, f x = .ok y) :
    ∃ ys, xs.mapM f = .ok ys := by
  induction xs with
  | nil => exact ⟨[], rfl⟩
  | cons x xs ih =>
    rw [List.forall_mem_cons] at h
    obtain ⟨⟨y, hy⟩, hxs⟩ := h
    obtain ⟨ys, hys⟩ := ih hxs
    exact ⟨y :: ys, by rw [List.mapM_cons, hy, hys]; rfl⟩

theorem exists_mapM_iff {f : α → Except ε β} {xs : List α} :
    (∃ ys, xs.mapM f = .ok ys) ↔ ∀ x ∈ xs, ∃ y, f x = .ok y := by
  refine ⟨?_, exists_mapM⟩
  induction xs with
  | nil => simp
  | cons x xs ih =>
    rw [List.mapM_cons, exists_bind_iff, List.forall_mem_cons]
    rintro ⟨y, hy, h⟩
    obtain ⟨ys, hys, -⟩ := exists_bind_iff.1 h
    exact ⟨⟨y, hy⟩, ih ⟨ys, hys⟩⟩

theorem forall_of_mapM {f : α → Except ε β} {P : β → Prop} (hf : ∀ x y, f x = .ok y → P y)
    {xs : List α} {ys : List β} (h : xs.mapM f = .ok ys) : ∀ y ∈ ys, P y := by
  induction xs generalizing ys with
  | nil =>
    cases h
    simp
  | cons x xs ih =>
    rw [List.mapM_cons] at h
    obtain ⟨y, hy, h⟩ := bind_eq_ok.1 h
    obtain ⟨zs, hzs, h⟩ := bind_eq_ok.1 h
    cases h
    rw [List.forall_mem_cons]
    exact ⟨hf x y hy, ih hzs⟩

theorem error_of_mapM {f : α → Except ε β} {xs : List α} {e : ε} (h : xs.mapM f = .error e) :
    ∃ x ∈ xs, f x = .error e := by
  induction xs with
  | nil => cases h
  | cons x xs ih =>
    rw [List.mapM_cons] at h
    rcases bind_eq_error.1 h with hx | ⟨y, -, h⟩
    . exact ⟨x, List.mem_cons_self .., hx⟩
    . rcases bind_eq_error.1 h with hxs | ⟨ys, -, h⟩
      . obtain ⟨z, hz, hfz⟩ := ih hxs
        exact ⟨z, List.mem_cons_of_mem _ hz, hfz⟩
      . cases h

end Automation
