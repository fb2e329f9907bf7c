import Automation.Blueprint.Validation

/-!
This module contains what the check of blueprints finds where the ends of connections are whole
numbers: whether there is a module at all, whether an id occurs twice, and the connections that do
not join two modules. There are no errors exactly where none of it is amiss.
-/

namespace Automation.Blueprint

theorem same_int (m n : Int) : Json.same (.int m) (.int n) = (m == n) := by
  simp [Json.same, Json.sameNumber, Json.wholeNumber?]

theorem isKnown_int (ids : List Int) (n : Int) : isKnown ids (.int n) = .ok (ids.contains n) := by
  have hkey : (Json.int n).asKey = .ok (.int n) := rfl
  simp only [isKnown, hkey, bind, Except.bind, pure, Except.pure, same_int]
  rw [List.contains_eq_any_beq]
  congr 2
  funext id
  rw [Bool.eq_iff_iff, beq_iff_eq, beq_iff_eq]
  exact eq_comm

def Joins (ids : List Int) (c : Connection) : Prop :=
  ∃ source ∈ ids, ∃ target ∈ ids, c.source = .int source ∧ c.target = .int target

theorem duplicates_of_nodup {ids : List Int} (h : ids.Nodup) : duplicates ids = [] := by
  have hfilter : ids.eraseDups.filter (fun id => 1 < ids.count id) = [] := by
    rw [List.filter_eq_nil_iff]
    intro id _
    have := List.nodup_iff_count.1 h id
    simpa using this
  rw [duplicates, hfilter, List.mergeSort_nil]

theorem duplicates_eq_nil_iff {ids : List Int} : duplicates ids = [] ↔ ids.Nodup := by
  refine ⟨fun h => ?_, duplicates_of_nodup⟩
  have hperm : (duplicates ids).Perm (ids.eraseDups.filter fun id => 1 < ids.count id) :=
    List.mergeSort_perm ..
  rw [h, List.nil_perm, List.filter_eq_nil_iff] at hperm
  rw [List.nodup_iff_count]
  intro id
  by_cases hid : id ∈ ids
  . simpa using hperm id (List.mem_eraseDups.2 hid)
  . simp [List.count_eq_zero.2 hid]

/-- Both ends are whole numbers, be they ids of modules or not. -/
def HasWholeEnds (c : Connection) : Prop :=
  ∃ source target : Int, c.source = .int source ∧ c.target = .int target

theorem Joins.hasWholeEnds {ids : List Int} {c : Connection} (h : Joins ids c) : HasWholeEnds c := by
  obtain ⟨source, _, target, _, hs, ht⟩ := h
  exact ⟨source, target, hs, ht⟩

theorem joins_iff {ids : List Int} {c : Connection} :
    Joins ids c ↔ (∃ source ∈ ids, c.source = .int source) ∧ ∃ target ∈ ids, c.target = .int target :=
  ⟨fun ⟨source, hsource, target, htarget, hs, ht⟩ => ⟨⟨source, hsource, hs⟩, target, htarget, ht⟩,
    fun ⟨⟨source, hsource, hs⟩, target, htarget, ht⟩ =>
      ⟨source, hsource, target, htarget, hs, ht⟩⟩

instance (ids : List Int) : DecidablePred (Joins ids) :=
  fun _ => decidable_of_iff _ joins_iff.symm

theorem isDangling_of_hasWholeEnds (ids : List Int) {c : Connection} (h : HasWholeEnds c) :
    isDangling ids c = .ok (!decide (Joins ids c)) := by
  obtain ⟨source, target, hs, ht⟩ := h
  have hjoins : Joins ids c ↔ source ∈ ids ∧ target ∈ ids := by
    simp [joins_iff, hs, ht]
  unfold isDangling
  rw [hs, ht, isKnown_int, isKnown_int]
  by_cases hsource : source ∈ ids <;>
    simp [hjoins, hsource, bind, Except.bind, pure, Except.pure]

theorem danglingConnections_eq (ids : List Int) {cs : List Connection}
    (h : ∀ c ∈ cs, HasWholeEnds c) : danglingConnections ids cs =
      .ok ((cs.filter (¬ Joins ids ·)).map fun c => .danglingConnection c.source c.target) := by
  induction cs with
  | nil => rfl
  | cons c cs ih =>
    rw [List.forall_mem_cons] at h
    rw [danglingConnections, isDangling_of_hasWholeEnds ids h.1, ih h.2]
    by_cases hc : Joins ids c <;> simp [hc, bind, Except.bind, pure, Except.pure]

theorem exists_defects {b : Blueprint} (h : ∀ c ∈ b.connections, HasWholeEnds c) :
    ∃ ds, b.defects = .ok ds := by
  unfold defects
  rw [danglingConnections_eq b.ids h]
  exact ⟨_, rfl⟩

theorem defects_eq {b : Blueprint} (ids : b.ids.Nodup)
    (connections : ∀ c ∈ b.connections, HasWholeEnds c) : b.defects =
      .ok ((if b.nodes.isEmpty then [.noModules] else []) ++
        (b.connections.filter (¬ Joins b.ids ·)).map fun c =>
          .danglingConnection c.source c.target) := by
  simp [defects, danglingConnections_eq b.ids connections, duplicates_of_nodup ids, bind,
    Except.bind, pure, Except.pure]

theorem errors_eq_nil {b : Blueprint} (nodes : b.nodes ≠ []) (ids : b.ids.Nodup)
    (connections : ∀ c ∈ b.connections, Joins b.ids c) : b.errors = .ok [] := by
  have hends : ∀ c ∈ b.connections, HasWholeEnds c := fun c hc => (connections c hc).hasWholeEnds
  have hdangling : b.connections.filter (¬ Joins b.ids ·) = [] := by
    rw [List.filter_eq_nil_iff]
    intro c hc
    simpa using connections c hc
  have hempty : b.nodes.isEmpty = false := by simpa using nodes
  rw [errors, defects_eq ids hends, hdangling, hempty]
  rfl

structure IsValid (b : Blueprint) : Prop where
  nodes_ne_nil : b.nodes ≠ []
  nodup_ids : b.ids.Nodup
  joins : ∀ c ∈ b.connections, Joins b.ids c

theorem errors_eq_nil_iff {b : Blueprint} (h : ∀ c ∈ b.connections, HasWholeEnds c) :
    b.errors = .ok [] ↔ b.IsValid := by
  refine ⟨fun hnil => ?_, fun hvalid =>
    errors_eq_nil hvalid.nodes_ne_nil hvalid.nodup_ids hvalid.joins⟩
  unfold errors defects at hnil
  rw [danglingConnections_eq b.ids h] at hnil
  replace hnil := Except.ok.inj hnil
  rw [List.map_eq_nil_iff, List.append_eq_nil_iff, List.append_eq_nil_iff] at hnil
  obtain ⟨⟨hnodes, hids⟩, hdangling⟩ := hnil
  constructor
  . intro hempty
    simp [hempty] at hnodes
  . rw [← duplicates_eq_nil_iff]
    split at hids
    . rwa [← List.isEmpty_iff]
    . cases hids
  . simpa using hdangling

end Automation.Blueprint
