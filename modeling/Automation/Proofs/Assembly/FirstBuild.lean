import Automation.Proofs.Assembly.Chain
import Automation.Proofs.Assembly.Settled
import Automation.Proofs.Blueprint.Validation

/-!
This module contains what the first build finds. Of all connections only the ones that were asked
for can be wrong: ids are never given twice, and a module is linked to none but the one before it.
-/

namespace Automation.Assembly

open Blueprint (Joins HasWholeEnds Defect)

def Operation.connection? : Operation → Option Connection
  | connect source target route => some { source, target, route }
  | _ => none

theorem connected?_apply {a : Assembly} (h : a.stage.isFinal = false) (op : Operation) :
    Performed.connected? ⟨op, (op.apply a).2⟩ = op.connection? := by
  cases op with
  | connect source target route =>
    change Performed.connected? ⟨_, (answering (a.whenOpen _) _).2⟩ = _
    rw [whenOpen_eq h]
    rfl
  | _ => rfl

theorem run_connected {ops : List Operation} (hops : ∀ op ∈ ops, op ≠ .build) {a : Assembly}
    (h : a.stage.isFinal = false) :
    (a.run ops).2.filterMap Performed.connected? = ops.filterMap Operation.connection? := by
  induction ops generalizing a with
  | nil => rfl
  | cons op ops ih =>
    rw [List.forall_mem_cons] at hops
    rw [run_cons, List.filterMap_cons, connected?_apply h, ih hops.2 (isFinal_apply hops.1 h),
      List.filterMap_cons]

section Edges

variable {ids : List Int}

theorem joins_edge {source target : Int} (hsource : source ∈ ids) (htarget : target ∈ ids) :
    Joins ids (edge source target) :=
  ⟨source, hsource, target, htarget, rfl, rfl⟩

theorem joins_of_mem_edgesTo {id : Int} {last : Option Link} (hid : id ∈ ids)
    (hlast : ∀ l ∈ last, l.id ∈ ids) : ∀ c ∈ edgesTo id last, Joins ids c := by
  intro c hc
  unfold edgesTo at hc
  split at hc
  . rw [List.mem_singleton] at hc
    rw [hc]
    exact joins_edge (hlast _ rfl) hid
  . cases hc

/-- Where the ids hold all modules, what joins none of them was asked for. -/
theorem filter_edges {last : Option Link} {h : List Performed} (hlast : ∀ l ∈ last, l.id ∈ ids)
    (hids : ∀ l ∈ h.filterMap Performed.appended?, l.id ∈ ids) :
    (edges last h).filter (¬ Joins ids ·) =
      (h.filterMap Performed.connected?).filter (¬ Joins ids ·) := by
  induction h generalizing last with
  | nil => rfl
  | cons p ps ih =>
    have hnew : ∀ l ∈ p.appended?, l.id ∈ ids := by
      intro l hl
      apply hids
      rw [List.filterMap_cons_some hl]
      exact List.mem_cons_self ..
    have hps : ∀ l ∈ ps.filterMap Performed.appended?, l.id ∈ ids := by
      intro l hl
      apply hids
      rw [List.filterMap_cons]
      split
      . exact hl
      . exact List.mem_cons_of_mem _ hl
    have hor : ∀ l ∈ p.appended?.or last, l.id ∈ ids := by
      intro l hl
      rcases Option.or_eq_some_iff.1 hl with hl | ⟨_, hl⟩
      . exact hnew l hl
      . exact hlast l hl
    rw [edges, List.filter_append, ih hor hps, List.filterMap_cons]
    unfold Performed.edges
    split
    . rename_i c hcon
      rw [hcon]
      dsimp only
      rw [← List.filter_append, List.singleton_append]
    . rename_i new hcon hnew'
      rw [hcon]
      dsimp only
      have hnone : (edgesTo new.id last).filter (¬ Joins ids ·) = [] := by
        rw [List.filter_eq_nil_iff]
        intro c hc
        simpa using joins_of_mem_edgesTo (hnew new hnew') hlast c hc
      rw [hnone, List.nil_append]
    . rename_i hcon _
      rw [hcon]
      rfl

end Edges

def idsOf (h : List Performed) : List Int :=
  (h.filterMap Performed.appended?).map Link.id

def defectsOf (ids : List Int) (asked : List Connection) : List Defect :=
  (if ids = [] then [.noModules] else []) ++
    (asked.filter (¬ Joins ids ·)).map fun c => .danglingConnection c.source c.target

def errorsOf (ids : List Int) (asked : List Connection) : List Text :=
  (if ids = [] then [.whole "Blueprint must have at least one module"] else []) ++
    (asked.filter (¬ Joins ids ·)).map fun c =>
      ("Invalid connection: " ++ c.source.text ++ " -> " ++ c.target.text : Text)

structure FirstBuild (ops : List Operation) (r : Assembly × List Performed) : Prop where
  defects : r.1.blueprint.defects =
    .ok (defectsOf (idsOf r.2) (ops.filterMap Operation.connection?))
  build : r.1.build.2 =
    if idsOf r.2 ≠ [] ∧ ∀ c ∈ ops.filterMap Operation.connection?, Joins (idsOf r.2) c then
      .ok r.1.blueprint
    else
      .error (.invalid (errorsOf (idsOf r.2) (ops.filterMap Operation.connection?)))

theorem build_of_defects {a : Assembly} (hopen : a.stage.isFinal = false) {found : List Defect}
    (h : a.blueprint.defects = .ok found) : a.build.2 =
      if found = [] then .ok a.blueprint else .error (.invalid (found.map Defect.message)) := by
  have herrors : a.errors = .ok (found.map Defect.message) := by
    rw [errors, Blueprint.errors, h]
    rfl
  apply build_cases (P := fun s => s.2 = _)
  . intro b hb
    rw [hb] at hopen
    cases hopen
  . intro errors hr
    rw [hr] at hopen
    cases hopen
  . intro f hf
    rw [herrors] at hf
    cases hf
  . intro _ hvalid
    rw [herrors, Except.ok.injEq, List.map_eq_nil_iff] at hvalid
    rw [if_pos hvalid]
  . intro errors _ hinvalid hne
    rw [herrors, Except.ok.injEq] at hinvalid
    rw [← hinvalid, ne_eq, List.map_eq_nil_iff] at hne
    rw [if_neg hne, hinvalid]

theorem defectsOf_eq_nil_iff {ids : List Int} {asked : List Connection} :
    defectsOf ids asked = [] ↔ ids ≠ [] ∧ ∀ c ∈ asked, Joins ids c := by
  by_cases h : ids = [] <;> simp [defectsOf, h]

theorem map_message_defectsOf (ids : List Int) (asked : List Connection) :
    (defectsOf ids asked).map Defect.message = errorsOf ids asked := by
  rw [defectsOf, errorsOf, List.map_append, List.map_map]
  congr 1
  split <;> rfl

theorem run_defects (spacing name description : Json) {ops : List Operation}
    (hops : ∀ op ∈ ops, op ≠ .build)
    (hends : ∀ c ∈ ops.filterMap Operation.connection?, HasWholeEnds c) :
    ((start spacing name description).run ops).1.blueprint.defects =
      .ok (defectsOf (idsOf ((start spacing name description).run ops).2)
        (ops.filterMap Operation.connection?)) := by
  have hchained := run_chained spacing name description ops
  have hasked := run_connected hops (a := start spacing name description) rfl
  generalize (start spacing name description).run ops = r at hchained hasked
  have hids : r.1.blueprint.ids = idsOf r.2 := by
    rw [Blueprint.ids, idsOf, ← hchained.nodes]
    exact map_id_eq _
  have hnodup : r.1.blueprint.ids.Nodup := hchained.counted.ascending.imp Int.ne_of_lt
  have hmade : ∀ c ∈ r.1.connections, HasWholeEnds c := by
    intro c hc
    rcases hchained.automatic c hc with hc | ⟨m, n, _, _, rfl⟩
    . rw [hasked] at hc
      exact hends c hc
    . exact ⟨m.id, n.id, rfl, rfl⟩
  have hwrong : r.1.connections.filter (¬ Joins (idsOf r.2) ·) =
      (ops.filterMap Operation.connection?).filter (¬ Joins (idsOf r.2) ·) := by
    rw [hchained.connections, ← hasked]
    apply filter_edges
    . simp
    . intro l hl
      exact List.mem_map_of_mem hl
  have hempty : r.1.blueprint.nodes.isEmpty = true ↔ idsOf r.2 = [] := by
    rw [← hids, Blueprint.ids, List.map_eq_nil_iff, List.isEmpty_iff]
  rw [Blueprint.defects_eq hnodup hmade, hids]
  change Except.ok (_ ++ (r.1.connections.filter _).map _) = _
  rw [hwrong, defectsOf]
  simp only [hempty]

/-- A blueprint is built if there is a module and what was asked for joins modules, whichever came
first. -/
theorem run_firstBuild (spacing name description : Json) {ops : List Operation}
    (hops : ∀ op ∈ ops, op ≠ .build)
    (hends : ∀ c ∈ ops.filterMap Operation.connection?, HasWholeEnds c) :
    FirstBuild ops ((start spacing name description).run ops) where
  defects := run_defects spacing name description hops hends
  build := by
    rw [build_of_defects (isFinal_run hops rfl) (run_defects spacing name description hops hends),
      map_message_defectsOf]
    simp only [defectsOf_eq_nil_iff]

def crossedOperations : List Operation :=
  -- The first module is refused and uses up its id; the second is connected before it is there.
  [.appendModule "m" 1 5 .null, .connect 2 1 .null, .connect 2 2 .null, .appendModule "m" 1 .null .null]

/-- The id of a refused module is none that a connection could have. -/
theorem run_firstBuild_of_crossedOperations :
    (∀ op ∈ crossedOperations, op ≠ .build) ∧
    (∀ c ∈ crossedOperations.filterMap Operation.connection?, HasWholeEnds c) ∧
    FirstBuild crossedOperations ((start 300 "a" "b").run crossedOperations) ∧
    ((start 300 "a" "b").run crossedOperations).1.build.1.stage =
      .rejected ["Invalid connection: 2 -> 1"] := by
  have hops : ∀ op ∈ crossedOperations, op ≠ .build := by
    simp [crossedOperations]
  have hends : ∀ c ∈ crossedOperations.filterMap Operation.connection?, HasWholeEnds c := by
    simp only [crossedOperations, List.filterMap_cons, Operation.connection?, List.filterMap_nil,
      List.forall_mem_cons]
    exact ⟨⟨2, 1, rfl, rfl⟩, ⟨2, 2, rfl, rfl⟩, by simp⟩
  exact ⟨hops, hends, run_firstBuild 300 "a" "b" hops hends, by decide +kernel⟩

end Automation.Assembly
