import Automation.Json.Coercion
import Automation.Proofs.Outcome

/-!
This module contains the shapes of values that can be gone through one by one, be keys, have fields
looked up in them or be used as objects.
-/

namespace Automation.Json

/--
What a value is gone through as: an array as its items, a text as its characters and an object as
the names of its fields.
-/
inductive Yields : Json → List Json → Prop
  | array (xs : List Json) : Yields (.array xs) xs
  | string (t : Text) : Yields (.string t) (t.glyphs.map fun g => .string (Text.ofGlyphs [g]))
  | object (fs : Fields) : Yields (.object fs) (fs.keys.map .string)

def IsKey (v : Json) : Prop :=
  (∀ xs, v ≠ .array xs) ∧ ∀ fs, v ≠ .object fs

def IsPair (v : Json) : Prop :=
  ∃ key value, v.Yields [key, value] ∧ key.IsKey

def IsMapping (v : Json) : Prop :=
  (∃ fs, v = .object fs) ∨ ∃ xs, v.Yields xs ∧ ∀ x ∈ xs, x.IsPair

variable {v : Json} {xs : List Json}

theorem field_eq_ok_iff {x : Json} {name : String} :
    v.field name = .ok x ↔ ∃ fields, v = .object fields ∧ Fields.get? fields name = some x := by
  cases v with
  | object fields =>
    simp only [field, object.injEq, exists_eq_left']
    split <;> simp_all
  | _ => simp [field]

theorem asList_eq_ok_iff : v.asList = .ok xs ↔ v.Yields xs := by
  constructor
  . intro h
    cases v with
    | array =>
      cases h
      exact .array _
    | string =>
      cases h
      exact .string _
    | object =>
      cases h
      exact .object _
    | _ => cases h
  . intro h
    cases h <;> rfl

theorem asKey_of_isKey (h : v.IsKey) : v.asKey = .ok v := by
  cases v with
  | array xs => exact absurd rfl (h.1 xs)
  | object fs => exact absurd rfl (h.2 fs)
  | _ => rfl

theorem isKey_of_asKey {key : Json} (h : v.asKey = .ok key) : v.IsKey := by
  cases v with
  | array => cases h
  | object => cases h
  | _ => exact ⟨by simp, by simp⟩

theorem exists_asPair_iff {position : Nat} : (∃ p, v.asPair position = .ok p) ↔ v.IsPair := by
  constructor
  . rintro ⟨p, hp⟩
    unfold asPair at hp
    split at hp
    . rename_i key value hlist
      obtain ⟨k, hk, -⟩ := bind_eq_ok.1 hp
      exact ⟨key, value, asList_eq_ok_iff.1 hlist, isKey_of_asKey hk⟩
    . cases hp
    . cases hp
  . rintro ⟨key, value, hlist, hkey⟩
    unfold asPair
    rw [asList_eq_ok_iff.2 hlist]
    exact exists_bind_iff.2 ⟨key, asKey_of_isKey hkey, _, rfl⟩

theorem exists_readPairs_iff {found : List (Json × Json)} {position : Nat} :
    (∃ ps, readPairs found position xs = .ok ps) ↔ ∀ x ∈ xs, x.IsPair := by
  induction xs generalizing found position with
  | nil => simp [readPairs]
  | cons x xs ih =>
    rw [readPairs, exists_bind_iff, List.forall_mem_cons, ← @exists_asPair_iff x position]
    constructor
    . rintro ⟨p, hp, hxs⟩
      exact ⟨⟨p, hp⟩, ih.1 hxs⟩
    . rintro ⟨⟨p, hp⟩, hxs⟩
      exact ⟨p, hp, ih.2 hxs⟩

theorem exists_toFields_iff : (∃ fs, v.toFields = .ok fs) ↔ v.IsMapping := by
  unfold toFields
  split
  . rename_i fs
    exact iff_of_true ⟨fs, rfl⟩ (.inl ⟨fs, rfl⟩)
  . rename_i hobject
    have hmapping : v.IsMapping ↔ ∃ xs, v.Yields xs ∧ ∀ x ∈ xs, x.IsPair :=
      or_iff_right fun ⟨fs, h⟩ => hobject fs h
    rw [hmapping, exists_bind_iff]
    constructor
    . rintro ⟨xs, hlist, h⟩
      obtain ⟨pairs, hpairs, -⟩ := exists_bind_iff.1 h
      exact ⟨xs, asList_eq_ok_iff.1 hlist, exists_readPairs_iff.1 ⟨pairs, hpairs⟩⟩
    . rintro ⟨xs, hlist, hpairs⟩
      obtain ⟨pairs, hread⟩ := exists_readPairs_iff.2 hpairs
      exact ⟨xs, asList_eq_ok_iff.2 hlist, exists_bind_iff.2 ⟨pairs, hread, _, rfl⟩⟩

end Automation.Json
