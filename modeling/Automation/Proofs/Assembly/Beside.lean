import Automation.Proofs.Assembly.Settled

/-!
This module contains the two halves of an assembly, the graph and what is noted beside it. An
operation draws the graph or makes a note, reads nothing of the other half and leaves it as it is,
so that a row of operations is two rows, each performed on its own.
-/

namespace Automation

namespace Stage

/-- The further one of two stages before the first build. -/
def join : Stage → Stage → Stage
  | .empty, t => t
  | s, _ => s

variable {s t : Stage}

theorem join_self (s : Stage) : s.join s = s := by
  cases s <;> rfl

theorem join_accumulating (h : s.isFinal = false) : s.join .accumulating = .accumulating := by
  cases s with
  | empty => rfl
  | accumulating => rfl
  | validated b => cases h
  | rejected errors => cases h

theorem isFinal_join (hs : s.isFinal = false) (ht : t.isFinal = false) :
    (s.join t).isFinal = false := by
  cases s with
  | empty => exact ht
  | _ => exact hs

end Stage

namespace Assembly

namespace Operation

def draws : Operation → Bool
  | appendModule .. => true
  | appendRouter .. => true
  | connect .. => true
  | decorate .. => true
  | _ => false

def notes : Operation → Bool
  | setMetadata .. => true
  | appendAuxiliary .. => true
  | _ => false

theorem ne_build_of_draws {op : Operation} (h : op.draws = true) : op ≠ .build := by
  rintro rfl
  cases h

theorem ne_build_of_notes {op : Operation} (h : op.notes = true) : op ≠ .build := by
  rintro rfl
  cases h

theorem not_notes_of_draws {op : Operation} (h : op.draws = true) : op.notes = false := by
  cases op <;> first | rfl | cases h

theorem not_draws_of_notes {op : Operation} (h : op.notes = true) : op.draws = false := by
  cases op <;> first | rfl | cases h

end Operation

def beside (g s : Assembly) : Assembly where
  layoutSpacing := g.layoutSpacing
  name := s.name
  description := s.description
  nodes := g.nodes
  connections := g.connections
  variableDefs := s.variableDefs
  dataStores := s.dataStores
  scheduling := s.scheduling
  settings := s.settings
  nextId := g.nextId
  stage := g.stage.join s.stage

theorem beside_self (a : Assembly) : beside a a = a := by
  rw [beside, Stage.join_self]

theorem isFinal_beside {g s : Assembly} (hg : g.stage.isFinal = false)
    (hs : s.stage.isFinal = false) : (beside g s).stage.isFinal = false :=
  Stage.isFinal_join hg hs

section Draws

variable (g s : Assembly)

theorem appendNode_beside (make : Nat → Except Fault Node) :
    (beside g s).appendNode make =
      (beside (g.appendNode make).1 s, (g.appendNode make).2) := by
  unfold appendNode orRefuse
  dsimp only [beside]
  cases make g.nextId with
  | error f => rfl
  | ok n =>
    dsimp only
    cases placement g.layoutSpacing g.nextId with
    | error f => rfl
    | ok metadata => rfl

theorem decorateSide_beside (id old data : Json) (set : Node → Json → Node) :
    (beside g s).decorateSide id old data set =
      (beside (g.decorateSide id old data set).1 s, (g.decorateSide id old data set).2) := by
  unfold decorateSide
  split
  . rfl
  . unfold orRefuse
    cases mergeInto old data <;> rfl

variable {g s}

theorem appendModule_beside (hg : g.stage.isFinal = false) (hs : s.stage.isFinal = false)
    (moduleType version parameters mapper : Json) :
    (beside g s).appendModule moduleType version parameters mapper =
      (beside (g.appendModule moduleType version parameters mapper).1 s,
        (g.appendModule moduleType version parameters mapper).2) := by
  unfold appendModule
  rw [whenOpen_eq (isFinal_beside hg hs), whenOpen_eq hg, appendNode_beside]

theorem appendRouter_beside (hg : g.stage.isFinal = false) (hs : s.stage.isFinal = false)
    (routes : List Route) (version : Json) :
    (beside g s).appendRouter routes version =
      (beside (g.appendRouter routes version).1 s, (g.appendRouter routes version).2) := by
  unfold appendRouter
  rw [whenOpen_eq (isFinal_beside hg hs), whenOpen_eq hg]
  split
  . rfl
  . rw [appendNode_beside]

theorem appendRouterOf_beside (hg : g.stage.isFinal = false) (hs : s.stage.isFinal = false)
    (given : Except Fault (List Route)) (version : Json) :
    (beside g s).appendRouterOf given version =
      (beside (g.appendRouterOf given version).1 s, (g.appendRouterOf given version).2) := by
  cases given with
  | ok routes => exact appendRouter_beside hg hs routes version
  | error f =>
    unfold appendRouterOf
    dsimp only
    rw [whenOpen_eq (isFinal_beside hg hs), whenOpen_eq hg]

theorem connect_beside (hg : g.stage.isFinal = false) (hs : s.stage.isFinal = false)
    (source target route : Json) :
    (beside g s).connect source target route =
      (beside (g.connect source target route).1 s, (g.connect source target route).2) := by
  unfold connect
  rw [whenOpen_eq (isFinal_beside hg hs), whenOpen_eq hg]
  rfl

theorem decorate_beside (hg : g.stage.isFinal = false) (hs : s.stage.isFinal = false)
    (id mapper metadata : Json) :
    (beside g s).decorate id mapper metadata =
      (beside (g.decorate id mapper metadata).1 s, (g.decorate id mapper metadata).2) := by
  unfold decorate
  rw [whenOpen_eq (isFinal_beside hg hs), whenOpen_eq hg]
  have hnode : (beside g s).blueprint.node? id = g.blueprint.node? id := rfl
  rw [hnode]
  cases g.blueprint.node? id with
  | none => rfl
  | some n =>
    dsimp only
    rw [decorateSide_beside]
    cases g.decorateSide id n.mapper mapper fun n mapper => { n with mapper } with
    | mk b r =>
      cases r with
      | error e => rfl
      | ok _ => exact decorateSide_beside b s id n.metadata metadata _

theorem apply_beside_of_draws (hg : g.stage.isFinal = false) (hs : s.stage.isFinal = false)
    {op : Operation} (hop : op.draws = true) :
    op.apply (beside g s) = (beside (op.apply g).1 s, (op.apply g).2) := by
  cases op with
  | appendModule moduleType version parameters mapper =>
    simp only [Operation.apply, answering, appendModule_beside hg hs]
  | appendRouter given version =>
    simp only [Operation.apply, answering, appendRouterOf_beside hg hs]
  | connect source target route =>
    simp only [Operation.apply, answering, connect_beside hg hs]
  | decorate id mapper metadata =>
    simp only [Operation.apply, answering, decorate_beside hg hs]
  | _ => cases hop

end Draws

section Notes

variable {g s : Assembly}

theorem orRefuse_beside {r : Except Fault β} {f f' : β → Step Unit}
    (h : ∀ b, f b = (beside g (f' b).1, (f' b).2)) :
    (beside g s).orRefuse r f = (beside g (s.orRefuse r f').1, (s.orRefuse r f').2) := by
  unfold orRefuse
  cases r with
  | error e => rfl
  | ok b => exact h b

theorem touch_beside (hg : g.stage.isFinal = false) (s : Assembly) :
    beside g s.touch = (beside g s).touch := by
  simp only [beside, touch, Stage.join_accumulating hg]

theorem setMetadata_beside (hg : g.stage.isFinal = false) (hs : s.stage.isFinal = false)
    (name description : Json) :
    (beside g s).setMetadata name description =
      (beside g (s.setMetadata name description).1, (s.setMetadata name description).2) := by
  unfold setMetadata
  rw [whenOpen_eq (isFinal_beside hg hs), whenOpen_eq hs]
  rfl

theorem appendAuxiliary_beside (hg : g.stage.isFinal = false) (hs : s.stage.isFinal = false)
    (kind data : Json) :
    (beside g s).appendAuxiliary kind data =
      (beside g (s.appendAuxiliary kind data).1, (s.appendAuxiliary kind data).2) := by
  unfold appendAuxiliary
  rw [whenOpen_eq (isFinal_beside hg hs), whenOpen_eq hs]
  split
  . apply orRefuse_beside
    intro named
    cases named with
    | false => rfl
    | true =>
      apply orRefuse_beside
      rintro ⟨name, fields⟩
      rw [touch_beside hg]
      rfl
  . apply orRefuse_beside
    intro interval
    rw [touch_beside hg]
    rfl
  . apply orRefuse_beside
    intro settings
    rw [touch_beside hg]
    rfl
  . apply orRefuse_beside
    intro fields
    rw [touch_beside hg]
    rfl
  . rfl

theorem apply_beside_of_notes (hg : g.stage.isFinal = false) (hs : s.stage.isFinal = false)
    {op : Operation} (hop : op.notes = true) :
    op.apply (beside g s) = (beside g (op.apply s).1, (op.apply s).2) := by
  cases op with
  | setMetadata name description =>
    simp only [Operation.apply, answering, setMetadata_beside hg hs]
  | appendAuxiliary kind data =>
    simp only [Operation.apply, answering, appendAuxiliary_beside hg hs]
  | _ => cases hop

end Notes

section Run

variable {a g s : Assembly} {ops : List Operation}

theorem run_append (a : Assembly) (xs ys : List Operation) :
    a.run (xs ++ ys) =
      (((a.run xs).1.run ys).1, (a.run xs).2 ++ ((a.run xs).1.run ys).2) := by
  induction xs generalizing a with
  | nil => rfl
  | cons op xs ih => rw [List.cons_append, run_cons, ih, run_cons, List.cons_append]

theorem run_beside_of_draws (hg : g.stage.isFinal = false) (hs : s.stage.isFinal = false)
    (hops : ∀ op ∈ ops, op.draws = true) :
    (beside g s).run ops = (beside (g.run ops).1 s, (g.run ops).2) := by
  induction ops generalizing g with
  | nil => rfl
  | cons op ops ih =>
    rw [List.forall_mem_cons] at hops
    have hopen := isFinal_apply (Operation.ne_build_of_draws hops.1) hg
    rw [run_cons, apply_beside_of_draws hg hs hops.1, ih hopen hops.2, run_cons]

theorem run_beside_of_notes (hg : g.stage.isFinal = false) (hs : s.stage.isFinal = false)
    (hops : ∀ op ∈ ops, op.notes = true) :
    (beside g s).run ops = (beside g (s.run ops).1, (s.run ops).2) := by
  induction ops generalizing s with
  | nil => rfl
  | cons op ops ih =>
    rw [List.forall_mem_cons] at hops
    have hopen := isFinal_apply (Operation.ne_build_of_notes hops.1) hs
    rw [run_cons, apply_beside_of_notes hg hs hops.1, ih hopen hops.2, run_cons]

/-- What a row of operations comes to: the graph that some of them draw on their own, beside it what
the others note on their own. -/
structure Parts (g s : Assembly) (ops : List Operation) (r : Assembly × List Performed) : Prop where
  assembly : r.1 = beside (g.run (ops.filter (·.draws))).1 (s.run (ops.filter (·.notes))).1
  draws : r.2.filter (·.operation.draws) = (g.run (ops.filter (·.draws))).2
  notes : r.2.filter (·.operation.notes) = (s.run (ops.filter (·.notes))).2

theorem run_parts (hg : g.stage.isFinal = false) (hs : s.stage.isFinal = false)
    (hops : ∀ op ∈ ops, op.draws = true ∨ op.notes = true) :
    Parts g s ops ((beside g s).run ops) := by
  induction ops generalizing g s with
  | nil => exact ⟨rfl, rfl, rfl⟩
  | cons op ops ih =>
    rw [List.forall_mem_cons] at hops
    rcases hops.1 with hop | hop
    . have hrest := ih (isFinal_apply (Operation.ne_build_of_draws hop) hg) hs hops.2
      have hnotes := Operation.not_notes_of_draws hop
      rw [run_cons, apply_beside_of_draws hg hs hop]
      exact {
        assembly := by simpa [hop, hnotes] using hrest.assembly
        draws := by simpa [hop] using hrest.draws
        notes := by simpa [hnotes] using hrest.notes }
    . have hrest := ih hg (isFinal_apply (Operation.ne_build_of_notes hop) hs) hops.2
      have hdraws := Operation.not_draws_of_notes hop
      rw [run_cons, apply_beside_of_notes hg hs hop]
      exact {
        assembly := by simpa [hop, hdraws] using hrest.assembly
        draws := by simpa [hdraws] using hrest.draws
        notes := by simpa [hop] using hrest.notes }

def drawnFirst (ops : List Operation) : List Operation :=
  ops.filter (·.draws) ++ ops.filter (·.notes)

theorem run_drawnFirst (ha : a.stage.isFinal = false)
    (hops : ∀ op ∈ ops, op.draws = true ∨ op.notes = true) :
    a.run (drawnFirst ops) = ((a.run ops).1,
      (a.run ops).2.filter (·.operation.draws) ++ (a.run ops).2.filter (·.operation.notes)) := by
  have hdraws : ∀ op ∈ ops.filter (·.draws), op.draws = true := fun _ h => (List.mem_filter.1 h).2
  have hnotes : ∀ op ∈ ops.filter (·.notes), op.notes = true := fun _ h => (List.mem_filter.1 h).2
  have hopen : (a.run (ops.filter (·.draws))).1.stage.isFinal = false :=
    isFinal_run (fun op hop => Operation.ne_build_of_draws (hdraws op hop)) ha
  have hgraph := run_beside_of_draws ha ha hdraws
  have hparts := run_parts ha ha hops
  rw [beside_self] at hgraph hparts
  rw [drawnFirst, run_append, hgraph]
  dsimp only
  rw [run_beside_of_notes hopen ha hnotes, hparts.assembly, hparts.draws, hparts.notes]

end Run

end Assembly

end Automation
