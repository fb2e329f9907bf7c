import Automation.Proofs.Text.Case
import Automation.Service

/-!
This module contains laws of the search for services. The services stand in an order, and a text
names the first service that has a keyword in it. Where a comma joins two texts, the first of the
services that they name is named; and no text names a later service than a part of it does.
-/

namespace Automation

namespace Text

theorem infix_append_cons_iff {x : α} {p u v : List α} (hx : x ∉ p) :
    p <:+: u ++ x :: v ↔ p <:+: u ∨ p <:+: v := by
  have hempty : ∀ {q : List α}, q <+: x :: v → x ∉ q → q = [] := by
    rintro q hq hxq
    rcases List.prefix_cons_iff.1 hq with rfl | ⟨q, rfl, -⟩
    . rfl
    . exact absurd (List.mem_cons_self ..) hxq
  rw [List.infix_append_iff, List.infix_cons_iff]
  constructor
  . rintro (hu | (hstarts | hv) | ⟨q, r, rfl, hq, hr⟩)
    . exact .inl hu
    . rw [hempty hstarts hx]
      exact .inl List.nil_infix
    . exact .inr hv
    . rw [hempty hr fun h => hx (List.mem_append_right q h), List.append_nil]
      exact .inl hq.isInfix
  . rintro (hu | hv)
    . exact .inl hu
    . exact .inr (.inl (.inr hv))

end Text

namespace Service

def place : Option Service → Nat
  | some s => all.idxOf s
  | none => all.length

def first (s t : Option Service) : Option Service :=
  if place s ≤ place t then s else t

section Place

variable {p q : Service → Bool}

theorem place_getElem? {n : Nat} (h : n ≤ all.length) : place all[n]? = n := by
  have hnodup : all.Nodup := by decide
  rcases Nat.lt_or_eq_of_le h with hlt | rfl
  . rw [List.getElem?_eq_getElem hlt]
    exact hnodup.idxOf_getElem n hlt
  . rw [List.getElem?_eq_none (Nat.le_refl _)]
    rfl

theorem place_find? (p : Service → Bool) : place (all.find? p) = all.findIdx p := by
  rw [List.find?_eq_getElem?_findIdx, place_getElem? List.findIdx_le_length]

theorem findIdx_or (p q : α → Bool) (xs : List α) :
    xs.findIdx (fun x => p x || q x) = min (xs.findIdx p) (xs.findIdx q) := by
  induction xs with
  | nil => rfl
  | cons x xs ih =>
    rw [List.findIdx_cons, List.findIdx_cons, List.findIdx_cons, ih]
    cases p x <;> cases q x <;> simp [Nat.add_min_add_right]

theorem find?_or (p q : Service → Bool) :
    all.find? (fun s => p s || q s) = first (all.find? p) (all.find? q) := by
  rw [first, place_find?, place_find?, List.find?_eq_getElem?_findIdx, findIdx_or]
  split
  . rename_i hle
    rw [Nat.min_eq_left hle, ← List.find?_eq_getElem?_findIdx]
  . rename_i hlt
    rw [Nat.min_eq_right (Nat.le_of_not_le hlt), ← List.find?_eq_getElem?_findIdx]

theorem place_find?_le (h : ∀ s, q s = true → p s = true) :
    place (all.find? p) ≤ place (all.find? q) := by
  rw [place_find?, place_find?]
  exact List.findIdx_le_findIdx fun s _ => h s

end Place

section Detect

variable {a b : String}

theorem mentions_iff {text : String} {words : List String} :
    mentions text words = true ↔ ∃ word ∈ words, word.toList <:+: text.toList := by
  simp [mentions, Text.occursIn_iff]

theorem not_mem_keywords (s : Service) : ∀ word ∈ s.keywords, ',' ∉ word.toList := by
  cases s <;> decide

theorem mentions_joined (s : Service) {text : String} {u v : List Char}
    (htext : text.toList = u ++ ',' :: v) :
    mentions text s.keywords =
      (mentions (String.ofList u) s.keywords || mentions (String.ofList v) s.keywords) := by
  rw [Bool.eq_iff_iff, Bool.or_eq_true, mentions_iff, mentions_iff, mentions_iff, htext,
    String.toList_ofList, String.toList_ofList]
  rw [← exists_or]
  apply exists_congr
  intro word
  rw [← and_or_left]
  exact and_congr_right fun hword => Text.infix_append_cons_iff (not_mem_keywords s word hword)

theorem detect?_joined (a b : String) :
    detect? (a ++ "," ++ b) = first (detect? a) (detect? b) := by
  have htext : (toLowerCase (a ++ "," ++ b)).toList =
      Text.lower a.toList ++ ',' :: Text.lower b.toList := by
    rw [toLowerCase, String.toList_ofList, String.toList_append, String.toList_append,
      List.append_assoc]
    exact Text.lower_append Text.isCaseBorder_comma _ _
  rw [detect?, detect?, detect?, named?, named?, named?, ← find?_or]
  congr 1
  funext s
  exact mentions_joined s htext

theorem place_detect?_le (h : (toLowerCase a).toList <:+: (toLowerCase b).toList) :
    place (detect? b) ≤ place (detect? a) := by
  rw [detect?, detect?]
  apply place_find?_le
  intro s ha
  rw [mentions_iff] at ha ⊢
  obtain ⟨word, hword, hwithin⟩ := ha
  exact ⟨word, hword, hwithin.trans h⟩

end Detect

end Service

end Automation
