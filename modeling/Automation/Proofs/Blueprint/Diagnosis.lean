import Automation.Proofs.Blueprint.Validation

/-!
This module contains the exact errors that the check of a blueprint tells: that there is no module,
which ids occur more than once and which connections miss a module, in this order. The order of the
modules does not count.
-/

namespace Automation.Blueprint

section Duplicates

theorem nodup_eraseDups [BEq α] [LawfulBEq α] (xs : List α) : xs.eraseDups.Nodup := by
  cases xs with
  | nil => simp
  | cons x xs =>
    rw [List.eraseDups_cons, List.nodup_cons, List.mem_eraseDups]
    exact ⟨by simp, nodup_eraseDups _⟩
termination_by xs.length
decreasing_by exact Nat.lt_succ_of_le (List.length_filter_le _ _)

theorem eraseDups_of_nodup [BEq α] [LawfulBEq α] {xs : List α} (h : xs.Nodup) :
    xs.eraseDups = xs := by
  induction xs with
  | nil => rfl
  | cons x xs ih =>
    rw [List.nodup_cons] at h
    have hother : xs.filter (fun y => !y == x) = xs := by
      rw [List.filter_eq_self]
      intro y hy
      simpa using ne_of_mem_of_not_mem hy h.1
    rw [List.eraseDups_cons, hother, ih h.2]

theorem mem_duplicates {ids : List Int} {id : Int} : id ∈ duplicates ids ↔ 2 ≤ ids.count id := by
  rw [duplicates, List.mem_mergeSort, List.mem_filter, List.mem_eraseDups, decide_eq_true_eq]
  constructor
  . intro h
    exact h.2
  . intro h
    exact ⟨List.count_pos_iff.1 (by omega), h⟩

theorem nodup_duplicates (ids : List Int) : (duplicates ids).Nodup := by
  rw [duplicates, (List.mergeSort_perm ..).nodup_iff]
  exact (nodup_eraseDups ids).filter _

theorem pairwise_duplicates (ids : List Int) : (duplicates ids).Pairwise (· < ·) := by
  have hsorted := @List.pairwise_mergeSort Int (fun a b => decide (a ≤ b))
    (by simpa using fun a b c => Int.le_trans) (by simpa using Int.le_total)
    (ids.eraseDups.filter fun id => 1 < ids.count id)
  apply (hsorted.and (nodup_duplicates ids)).imp
  intro a b hab
  exact Int.lt_iff_le_and_ne.2 ⟨of_decide_eq_true hab.1, hab.2⟩

example : duplicates [7, -1, 3, 7, -1] = [-1, 7] := by cbv

theorem duplicates_perm {ids ids' : List Int} (h : ids.Perm ids') :
    duplicates ids = duplicates ids' := by
  apply List.Perm.eq_of_pairwise (fun a b _ _ hab hba => absurd hba (Int.lt_asymm hab))
    (pairwise_duplicates ids) (pairwise_duplicates ids')
  rw [List.perm_ext_iff_of_nodup (nodup_duplicates ids) (nodup_duplicates ids')]
  intro id
  rw [mem_duplicates, mem_duplicates, h.count_eq]

end Duplicates

section Order

theorem isKnown_perm {ids ids' : List Int} (h : ids.Perm ids') (v : Json) :
    isKnown ids v = isKnown ids' v := by
  unfold isKnown
  cases v.asKey with
  | error f => rfl
  | ok key => exact congrArg Except.ok h.any_eq

theorem danglingConnections_perm {ids ids' : List Int} (h : ids.Perm ids') (cs : List Connection) :
    danglingConnections ids cs = danglingConnections ids' cs := by
  induction cs with
  | nil => rfl
  | cons c cs ih =>
    rw [danglingConnections, danglingConnections, ih, isDangling, isDangling, isKnown_perm h,
      isKnown_perm h]

/-- The order of modules does not count, whatever the ends of connections are. -/
theorem errors_perm {b b' : Blueprint} (hnodes : b'.nodes.Perm b.nodes)
    (hconnections : b'.connections = b.connections) : b'.errors = b.errors := by
  have hids : b'.ids.Perm b.ids := hnodes.map Node.id
  unfold errors defects
  rw [hconnections, danglingConnections_perm hids, duplicates_perm hids, hnodes.isEmpty_eq]

end Order

def HasEnds (b : Blueprint) (ends : List (Int × Int)) : Prop :=
  b.connections.map (fun c => (c.source, c.target)) = ends.map fun e => (.int e.1, .int e.2)

structure Diagnoses (b : Blueprint) (ends : List (Int × Int)) (errors : List Text) : Prop where
  isEmpty_iff : errors.isEmpty = true ↔
    b.nodes ≠ [] ∧ b.ids.Nodup ∧ ∀ e ∈ ends, e.1 ∈ b.ids ∧ e.2 ∈ b.ids
  eq : ∃ repeated : List Int, repeated.Pairwise (· < ·) ∧
    (∀ id, id ∈ repeated ↔ 2 ≤ b.ids.count id) ∧
    errors =
      (if b.nodes = [] then [.whole "Blueprint must have at least one module"] else []) ++
      (if repeated = [] then []
        else [.whole ("Duplicate module IDs found: " ++ ", ".intercalate (repeated.map toString))]) ++
      (ends.filter fun e => ¬ (e.1 ∈ b.ids ∧ e.2 ∈ b.ids)).map fun e =>
        .whole ("Invalid connection: " ++ toString e.1 ++ " -> " ++ toString e.2)

section Diagnosis

variable {b : Blueprint} {ends : List (Int × Int)}

theorem joins_int {ids : List Int} {source target : Int} {c : Connection}
    (hsource : c.source = .int source) (htarget : c.target = .int target) :
    Joins ids c ↔ source ∈ ids ∧ target ∈ ids := by
  simp [joins_iff, hsource, htarget]

theorem danglingConnections_of_ends (ids : List Int) {cs : List Connection}
    (h : cs.map (fun c => (c.source, c.target)) = ends.map fun e => (.int e.1, .int e.2)) :
    danglingConnections ids cs =
      .ok ((ends.filter fun e => ¬ (e.1 ∈ ids ∧ e.2 ∈ ids)).map fun e =>
        .danglingConnection (.int e.1) (.int e.2)) := by
  induction ends generalizing cs with
  | nil =>
    rw [List.map_nil, List.map_eq_nil_iff] at h
    rw [h]
    rfl
  | cons e ends ih =>
    obtain ⟨c, cs, rfl, hc, hcs⟩ := List.map_eq_cons_iff.1 h
    rw [Prod.mk.injEq] at hc
    rw [danglingConnections, isDangling_of_hasWholeEnds ids ⟨e.1, e.2, hc.1, hc.2⟩, ih hcs, hc.1,
      hc.2, List.filter_cons]
    by_cases hjoins : e.1 ∈ ids ∧ e.2 ∈ ids <;>
      simp [joins_int hc.1 hc.2, hjoins, bind, Except.bind, pure, Except.pure]

theorem errors_of_hasEnds (h : b.HasEnds ends) : b.errors = .ok (
    (if b.nodes = [] then [.whole "Blueprint must have at least one module"] else []) ++
    (if duplicates b.ids = [] then [] else [(Defect.duplicateIds (duplicates b.ids)).message]) ++
    (ends.filter fun e => ¬ (e.1 ∈ b.ids ∧ e.2 ∈ b.ids)).map fun e =>
      .whole ("Invalid connection: " ++ toString e.1 ++ " -> " ++ toString e.2)) := by
  have hmessage : ∀ e : Int × Int, (Defect.danglingConnection (.int e.1) (.int e.2)).message =
      .whole ("Invalid connection: " ++ toString e.1 ++ " -> " ++ toString e.2) := by
    intro e
    rw [Defect.message, Json.text_int, Json.text_int]
    rfl
  unfold errors defects
  rw [danglingConnections_of_ends b.ids h]
  simp only [bind, Except.bind, pure, Except.pure, List.isEmpty_iff, List.map_append, List.map_map,
    Function.comp_def, hmessage]
  split <;> split <;> rfl

/-- The errors of a blueprint are told exactly, and its modules in another order have the same. -/
theorem exists_diagnosis (h : b.HasEnds ends) :
    ∃ errors, b.errors = .ok errors ∧ b.Diagnoses ends errors ∧
      ∀ nodes : List Node, nodes.Perm b.nodes →
        ({ b with nodes } : Blueprint).errors = .ok errors := by
  have herrors := errors_of_hasEnds h
  refine ⟨_, herrors, ⟨?_, duplicates b.ids, pairwise_duplicates _, fun _ => mem_duplicates, rfl⟩, ?_⟩
  . rw [List.isEmpty_iff, List.append_eq_nil_iff, List.append_eq_nil_iff, List.map_eq_nil_iff,
      List.filter_eq_nil_iff, ← duplicates_eq_nil_iff, and_assoc]
    simp
  . intro nodes hnodes
    rw [← herrors]
    exact errors_perm hnodes rfl

end Diagnosis

/-- Ids out of order and below zero, two of them twice, and a connection without a module twice. -/
def tangledBlueprint : Blueprint where
  name := "tangled"
  description := ""
  version := 2
  nodes := [7, -1, 3, 7, -1].map fun id => ⟨id, "flow.sleep", 1, [], .null, .null, none⟩
  connections := [(3, -1), (4, 3), (7, 5), (4, 3)].map fun (s, t) => ⟨.int s, .int t, .null⟩
  scheduling := .null
  variableDefs := []
  dataStores := []
  settings := .null

theorem exists_diagnosis_of_tangledBlueprint :
    tangledBlueprint.HasEnds [(3, -1), (4, 3), (7, 5), (4, 3)] ∧
    ∃ errors, tangledBlueprint.errors = .ok errors ∧
      tangledBlueprint.Diagnoses [(3, -1), (4, 3), (7, 5), (4, 3)] errors ∧
      ∀ nodes : List Node, nodes.Perm tangledBlueprint.nodes →
        ({ tangledBlueprint with nodes } : Blueprint).errors = .ok errors :=
  ⟨rfl, exists_diagnosis rfl⟩

end Automation.Blueprint
