import Automation.Json.Basic

/-!
This module contains the induction on values, in which an array or an object has what its elements
or the values of its fields have, and the fields of objects in which no name occurs twice: what is
looked up in them is what they hold, in whatever order they stand.
-/

namespace Automation

@[elab_as_elim]
theorem Json.inductionOn {P : Json → Prop} (v : Json) (null : P .null) (bool : ∀ b, P (.bool b))
    (int : ∀ n, P (.int n)) (real : ∀ x, P (.real x)) (string : ∀ t, P (.string t))
    (array : ∀ xs, (∀ x ∈ xs, P x) → P (.array xs))
    (object : ∀ fs : Fields, (∀ f ∈ fs, P f.2) → P (.object fs)) : P v := by
  apply @Json.rec P (fun xs => ∀ x ∈ xs, P x) (fun fs => ∀ f ∈ fs, P f.2) (fun f => P f.2)
  . exact null
  . exact bool
  . exact int
  . exact real
  . exact string
  . exact array
  . exact object
  . simp
  . intro x xs hx hxs
    rw [List.forall_mem_cons]
    exact ⟨hx, hxs⟩
  . simp
  . intro f fs hf hfs
    rw [List.forall_mem_cons]
    exact ⟨hf, hfs⟩
  . intro _ _ hx
    exact hx

/-- The fields of an object; other values have none. -/
def Json.fields : Json → Fields
  | .object fs => fs
  | _ => []

namespace Fields

def areApart : Fields → Bool
  | [] => true
  | (k, _) :: fs => !has fs k && areApart fs

variable {fields more rest : Fields} {key other : Text} {value : Json}

theorem has_iff_mem_keys : fields.has key = true ↔ key ∈ fields.keys := by
  induction fields with
  | nil => simp [has, keys]
  | cons f fs ih =>
    unfold has get?
    by_cases hkey : f.1 = key
    . simp [keys, hkey]
    . simp only [hkey, if_false, keys, List.map_cons, List.mem_cons, Ne.symm hkey, false_or]
      exact ih

theorem areApart_iff_nodup : fields.areApart = true ↔ fields.keys.Nodup := by
  induction fields with
  | nil => simp [areApart, keys]
  | cons f fs ih =>
    have hkeys : keys (f :: fs) = f.1 :: keys fs := rfl
    rw [areApart, Bool.and_eq_true, ih, hkeys, List.nodup_cons, ← has_iff_mem_keys,
      Bool.not_eq_true', Bool.not_eq_true]

theorem put_of_get?_eq_none (h : fields.get? key = none) (value : Json) :
    fields.put key value = fields ++ [(key, value)] := by
  induction fields with
  | nil => rfl
  | cons f fs ih =>
    unfold get? at h
    split at h
    . cases h
    . rename_i hkey
      unfold put
      rw [if_neg hkey, ih h, List.cons_append]

theorem get?_eq_none_iff : fields.get? key = none ↔ key ∉ fields.keys := by
  rw [← has_iff_mem_keys, has, Option.isSome_iff_ne_none, ne_eq, Decidable.not_not]

theorem merge_of_nodup (h : (keys (fields ++ more)).Nodup) : fields.merge more = fields ++ more := by
  unfold merge
  induction more generalizing fields with
  | nil => rw [List.foldl_nil, List.append_nil]
  | cons f fs ih =>
    have hnone : fields.get? f.1 = none := by
      rw [get?_eq_none_iff]
      intro hmem
      rw [keys, List.map_append, List.nodup_append] at h
      exact h.2.2 f.1 hmem f.1 (by simp) rfl
    rw [List.foldl_cons]
    dsimp only
    rw [put_of_get?_eq_none hnone, ih]
    . rw [List.append_assoc, List.singleton_append]
    . rwa [List.append_assoc, List.singleton_append]

theorem ofPairs_of_areApart (h : fields.areApart = true) : ofPairs fields = fields := by
  unfold ofPairs
  rw [merge_of_nodup]
  . rfl
  . exact areApart_iff_nodup.1 h

theorem get?_append : get? (fields ++ more) key = (get? fields key).or (get? more key) := by
  induction fields with
  | nil => rfl
  | cons f fs ih =>
    rw [List.cons_append, get?, get?, ih]
    split <;> rfl

theorem get?_put : (fields.put key value).get? other =
    if key = other then some value else fields.get? other := by
  split
  . rename_i hkey
    rw [hkey, get?_put_self]
  . rename_i hkey
    rw [get?_put_of_ne _ _ hkey]

theorem merge_append : fields.merge (more ++ rest) = (fields.merge more).merge rest :=
  List.foldl_append

theorem get?_merge : (fields.merge more).get? key = (get? more.reverse key).or (get? fields key) := by
  induction more generalizing fields with
  | nil => rfl
  | cons f more ih =>
    have hone : get? [f] key = if f.1 = key then some f.2 else none := rfl
    change ((fields.put f.1 f.2).merge more).get? key = _
    rw [ih, get?_put, List.reverse_cons, get?_append, hone, Option.or_assoc]
    split <;> rfl

theorem get?_of_mem (h : fields.areApart = true) (hmem : (key, value) ∈ fields) :
    fields.get? key = some value := by
  induction fields with
  | nil => cases hmem
  | cons f fs ih =>
    rw [areApart, Bool.and_eq_true] at h
    rcases List.mem_cons.1 hmem with rfl | hmem
    . simp [get?]
    . unfold get?
      rw [if_neg, ih h.2 hmem]
      intro hkey
      have hhas : has fs f.1 = true := by
        rw [has_iff_mem_keys, hkey]
        exact List.mem_map_of_mem hmem
      simp [hhas] at h

end Fields

end Automation
