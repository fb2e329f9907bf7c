import Automation.Assembly
import Automation.Proofs.Outcome

/-!
This module contains the operations on an assembly as data, what a row of them leaves behind and the
history of what each of them answered. A step that is refused or stopped by a fault is split off
once and for all, so that what an operation does is said by the lemmas about its own step.
-/

namespace Automation.Assembly

inductive Operation where
  | setMetadata (name description : Json)
  | appendModule (moduleType version parameters mapper : Json)
  | appendRouter (given : Except Fault (List Route)) (version : Json)
  | appendAuxiliary (kind data : Json)
  | connect (source target route : Json)
  | decorate (id mapper metadata : Json)
  | validate
  | build
  deriving Repr, DecidableEq

inductive Answer where
  | done
  | module (id : Nat)
  | checked (errors : List Text)
  | built (blueprint : Blueprint)
  deriving Repr, DecidableEq

structure Performed where
  operation : Operation
  answer : Except Refusal Answer
  deriving Repr

def answering (s : Step α) (f : α → Answer) : Step Answer :=
  (s.1, s.2.map f)

namespace Operation

def apply : Operation → Assembly → Step Answer
  | setMetadata name description, a => answering (a.setMetadata name description) fun _ => .done
  | appendModule moduleType version parameters mapper, a =>
    answering (a.appendModule moduleType version parameters mapper) .module
  | appendRouter given version, a => answering (a.appendRouterOf given version) .module
  | appendAuxiliary kind data, a => answering (a.appendAuxiliary kind data) fun _ => .done
  | connect source target route, a => answering (a.connect source target route) fun _ => .done
  | decorate id mapper metadata, a => answering (a.decorate id mapper metadata) fun _ => .done
  | validate, a => (a, (a.errors.mapError .fault).map .checked)
  | build, a => answering a.build .built

def isAppend : Operation → Bool
  | appendModule .. => true
  | appendRouter .. => true
  | _ => false

end Operation

def run (a : Assembly) : List Operation → Assembly × List Performed
  | [] => (a, [])
  | op :: ops =>
    let step := op.apply a
    let rest := run step.1 ops
    (rest.1, ⟨op, step.2⟩ :: rest.2)

@[simp]
theorem run_nil (a : Assembly) : a.run [] = (a, []) := rfl

@[simp]
theorem run_cons (a : Assembly) (op : Operation) (ops : List Operation) :
    a.run (op :: ops) =
      (((op.apply a).1.run ops).1, ⟨op, (op.apply a).2⟩ :: ((op.apply a).1.run ops).2) := rfl

theorem run_induction {P : Assembly → Prop} {a : Assembly} (start : P a)
    (step : ∀ b op, P b → P (Operation.apply op b).1) (ops : List Operation) :
    P (a.run ops).1 := by
  induction ops generalizing a with
  | nil => exact start
  | cons op ops ih => exact ih (step a op start)

section Cases

variable {α β : Type} {a : Assembly} {P : Step α → Prop}

@[simp]
theorem answering_fst (s : Step α) (f : α → Answer) : (answering s f).1 = s.1 := rfl

@[simp]
theorem answering_snd (s : Step α) (f : α → Answer) : (answering s f).2 = s.2.map f := rfl

theorem whenOpen_cases {step : Assembly → Step α}
    (closed : a.stage.isFinal = true → P (a, .error (.closed a.stage.name)))
    (opened : a.stage.isFinal = false → P (step a)) : P (a.whenOpen step) := by
  unfold whenOpen
  cases h : a.stage.isFinal with
  | true => exact closed h
  | false => exact opened h

theorem orRefuse_cases {r : Except Fault β} {step : β → Step α}
    (refused : ∀ f, r = .error f → P (a, .error (.fault f)))
    (passed : ∀ b, r = .ok b → P (step b)) : P (a.orRefuse r step) := by
  unfold orRefuse
  split
  . exact passed _ rfl
  . exact refused _ rfl

end Cases

theorem whenOpen_eq {a : Assembly} (h : a.stage.isFinal = false) (step : Assembly → Step α) :
    a.whenOpen step = step a := by
  simp [whenOpen, h]

theorem whenOpen_closed {a : Assembly} (h : a.stage.isFinal = true) (step : Assembly → Step α) :
    a.whenOpen step = (a, .error (.closed a.stage.name)) := by
  simp [whenOpen, h]

def appended (a : Assembly) (n : Node) : Assembly :=
  { a with
    nextId := a.nextId + 1
    connections := a.connections ++ link a.nodes a.nextId
    nodes := a.nodes ++ [n]
    stage := .accumulating }

def skipped (a : Assembly) : Assembly :=
  { a with nextId := a.nextId + 1 }

theorem appendNode_cases {P : Step Nat → Prop} (a : Assembly) (make : Nat → Except Fault Node)
    (refused : ∀ f, make a.nextId = .error f ∨ placement a.layoutSpacing a.nextId = .error f →
      P (a.skipped, .error (.fault f)))
    (appended : ∀ n metadata, make a.nextId = .ok n →
      placement a.layoutSpacing a.nextId = .ok metadata →
      P (a.appended { n with metadata }, .ok a.nextId)) :
    P (a.appendNode make) := by
  unfold appendNode
  apply orRefuse_cases
  . intro f hf
    exact refused f (.inl hf)
  . intro node hnode
    apply orRefuse_cases
    . intro f hf
      exact refused f (.inr hf)
    . intro metadata hmetadata
      exact appended node metadata hnode hmetadata

theorem appendModule_cases {P : Step Nat → Prop} (a : Assembly)
    (moduleType version parameters mapper : Json)
    (closed : P (a, .error (.closed a.stage.name)))
    (refused : ∀ f, P (a.skipped, .error (.fault f)))
    (appended : ∀ fields mapper' metadata,
      (parameters.orElse (.object [])).toFields = .ok fields → objectOrNull mapper = .ok mapper' →
      placement a.layoutSpacing a.nextId = .ok metadata →
      P (a.appended
        { id := a.nextId, moduleType, version, parameters := fields, mapper := mapper', metadata
          routes := none }, .ok a.nextId)) :
    P (a.appendModule moduleType version parameters mapper) := by
  apply whenOpen_cases (fun _ => closed)
  intro _
  apply appendNode_cases _ _ fun f _ => refused f
  intro n metadata hn hmetadata
  obtain ⟨fields, hfields, hn⟩ := bind_eq_ok.1 hn
  obtain ⟨mapper', hmapper, hn⟩ := bind_eq_ok.1 hn
  cases hn
  exact appended fields mapper' metadata hfields hmapper hmetadata

theorem appendRouter_cases {P : Step Nat → Prop} (a : Assembly) (routes : List Route)
    (version : Json) (unchanged : ∀ e, P (a, .error e))
    (refused : ∀ f, P (a.skipped, .error (.fault f)))
    (appended : ∀ metadata, routes ≠ [] → placement a.layoutSpacing a.nextId = .ok metadata →
      P (a.appended
        { id := a.nextId, moduleType := .string Node.routerType, version, parameters := []
          mapper := .null, metadata, routes := some routes }, .ok a.nextId)) :
    P (a.appendRouter routes version) := by
  apply whenOpen_cases (fun _ => unchanged _)
  intro _
  split
  . exact unchanged _
  . rename_i hroutes
    apply appendNode_cases _ _ fun f _ => refused f
    intro n metadata hn hmetadata
    cases hn
    exact appended metadata (by simpa using hroutes) hmetadata

theorem appendRouterOf_cases {P : Step Nat → Prop} (a : Assembly)
    (given : Except Fault (List Route)) (version : Json) (unchanged : ∀ e, P (a, .error e))
    (refused : ∀ f, P (a.skipped, .error (.fault f)))
    (appended : ∀ routes metadata, given = .ok routes → routes ≠ [] →
      placement a.layoutSpacing a.nextId = .ok metadata →
      P (a.appended
        { id := a.nextId, moduleType := .string Node.routerType, version, parameters := []
          mapper := .null, metadata, routes := some routes }, .ok a.nextId)) :
    P (a.appendRouterOf given version) := by
  cases given with
  | ok routes => exact appendRouter_cases a routes version unchanged refused (appended routes · rfl)
  | error f =>
    apply whenOpen_cases
    . intro _
      apply unchanged
    . intro _
      apply unchanged

def undecorated (n : Node) : Node :=
  { n with mapper := .null, metadata := .null }

theorem map_modifyNode {f : Node → Node} {g : Node → β} (h : ∀ n, g (f n) = g n) (id : Json)
    (nodes : List Node) : (modifyNode id f nodes).map g = nodes.map g := by
  induction nodes with
  | nil => rfl
  | cons n nodes ih =>
    unfold modifyNode
    split
    . simp [h]
    . simp [ih]

theorem decorateSide_cases {P : Step Unit → Prop} (a : Assembly) (id old data : Json)
    (set : Node → Json → Node) (absent : data = .null → P (a, .ok ()))
    (refused : ∀ f, data ≠ .null → mergeInto old data = .error f → P (a, .error (.fault f)))
    (merged : ∀ side, data ≠ .null → mergeInto old data = .ok side →
      P ({ a with nodes := modifyNode id (set · side) a.nodes }, .ok ())) :
    P (a.decorateSide id old data set) := by
  unfold decorateSide
  split
  . exact absent rfl
  . rename_i hdata
    apply orRefuse_cases
    . intro f hf
      exact refused f hdata hf
    . intro side hside
      exact merged side hdata hside

def withMapper (a : Assembly) (id mapper : Json) : Assembly :=
  { a with nodes := modifyNode id (fun n => { n with mapper }) a.nodes }

def followedBy (s : Step Unit) (next : Assembly → Step Unit) : Step Unit :=
  match s with
  | (a, .error e) => (a, .error e)
  | (a, .ok ()) => next a

def Merges (a : Assembly) (id mapper : Json) : Prop :=
  ∃ n merged, a.blueprint.node? id = some n ∧ mergeInto n.mapper mapper = .ok merged

/-- The metadata are merged into what the mapper left, if the mapper was not refused. -/
theorem decorate_steps {P : Step Unit → Prop} (a : Assembly) (id mapper metadata : Json)
    (refused : ∀ e, a.stage.isFinal = true ∨ ¬a.Merges id mapper → P (a, .error e))
    (kept : ∀ n, a.stage.isFinal = false → a.blueprint.node? id = some n → mapper = .null →
      P (a.decorateSide id n.metadata metadata fun n metadata => { n with metadata }))
    (merged : ∀ n side, a.stage.isFinal = false → a.blueprint.node? id = some n →
      mergeInto n.mapper mapper = .ok side →
      P ((a.withMapper id side).decorateSide id n.metadata metadata
        fun n metadata => { n with metadata })) :
    P (a.decorate id mapper metadata) := by
  apply whenOpen_cases
  . intro hfinal
    exact refused _ (.inl hfinal)
  . intro hopen
    split
    . rename_i hnone
      refine refused _ (.inr ?_)
      rintro ⟨n, _, hnode, _⟩
      rw [hnone] at hnode
      cases hnode
    . rename_i n hnode
      apply decorateSide_cases (P := fun s => P (followedBy s fun a =>
        a.decorateSide id n.metadata metadata fun n metadata => { n with metadata }))
      . exact kept n hopen hnode
      . intro f _ hf
        refine refused _ (.inr ?_)
        rintro ⟨m, merged, hm, hmerged⟩
        rw [hnode, Option.some.injEq] at hm
        rw [← hm, hf] at hmerged
        cases hmerged
      . intro side _ hside
        exact merged n side hopen hnode hside

theorem decorate_cases {P : Step Unit → Prop} (a : Assembly) (id mapper metadata : Json)
    (h : ∀ nodes r, nodes.map undecorated = a.nodes.map undecorated → P ({ a with nodes }, r)) :
    P (a.decorate id mapper metadata) := by
  have hmetadata : ∀ nodes old, nodes.map undecorated = a.nodes.map undecorated →
      P (decorateSide { a with nodes } id old metadata fun n metadata => { n with metadata }) := by
    intro nodes old hnodes
    apply decorateSide_cases
    . intro _
      exact h nodes _ hnodes
    . intro _ _ _
      exact h nodes _ hnodes
    . intro side _ _
      refine h _ _ (.trans ?_ hnodes)
      apply map_modifyNode
      exact fun _ => rfl
  apply decorate_steps
  . intro _ _
    exact h a.nodes _ rfl
  . intro n _ _ _
    exact hmetadata a.nodes n.metadata rfl
  . intro n side _ _ _
    apply hmetadata
    apply map_modifyNode
    exact fun _ => rfl

theorem mergeInto_eq_object {old data v : Json} (h : mergeInto old data = .ok v) :
    ∃ fields, v = .object fields := by
  obtain ⟨fields, _, h⟩ := bind_eq_ok.1 h
  obtain ⟨more, _, h⟩ := bind_eq_ok.1 h
  cases h
  exact ⟨_, rfl⟩

theorem appendAuxiliary_cases {P : Step Unit → Prop} (a : Assembly) (kind data : Json)
    (refused : ∀ e, P (a, .error e))
    (recorded : ∀ variableDefs dataStores scheduling settings,
      (scheduling = a.scheduling ∨ ∃ fields, scheduling = .object fields) →
      (settings = a.settings ∨ ∃ fields, settings = .object fields) →
      P ({ a with variableDefs, dataStores, scheduling, settings, stage := .accumulating },
        .ok ())) :
    P (a.appendAuxiliary kind data) := by
  unfold appendAuxiliary
  apply whenOpen_cases
  . intro _
    exact refused _
  . intro _
    split
    . apply orRefuse_cases (fun _ _ => refused _)
      intro named _
      cases named with
      | false => exact refused _
      | true =>
        exact orRefuse_cases (fun _ _ => refused _) fun _ _ =>
          recorded _ _ _ _ (.inl rfl) (.inl rfl)
    . exact orRefuse_cases (fun _ _ => refused _) fun _ _ =>
        recorded _ _ _ _ (.inr ⟨_, rfl⟩) (.inl rfl)
    . exact orRefuse_cases (fun _ _ => refused _) fun _ h =>
        recorded _ _ _ _ (.inl rfl) (.inr (mergeInto_eq_object h))
    . exact orRefuse_cases (fun _ _ => refused _) fun _ _ =>
        recorded _ _ _ _ (.inl rfl) (.inl rfl)
    . exact refused _

theorem build_cases {P : Step Blueprint → Prop} (a : Assembly)
    (validated : ∀ b, a.stage = .validated b → P (a, .ok b))
    (rejected : ∀ errors, a.stage = .rejected errors → P (a, .error (.invalid errors)))
    (fault : ∀ f, a.errors = .error f → P (a, .error (.fault f)))
    (valid : a.stage.isFinal = false → a.errors = .ok [] →
      P ({ a with stage := .validated a.blueprint }, .ok a.blueprint))
    (invalid : ∀ errors, a.stage.isFinal = false → a.errors = .ok errors → errors ≠ [] →
      P ({ a with stage := .rejected errors }, .error (.invalid errors))) :
    P a.build := by
  unfold build
  split
  . exact validated _ ‹_›
  . exact rejected _ ‹_›
  . rename_i hv hr
    have hopen : a.stage.isFinal = false := by
      cases h : a.stage with
      | empty => rfl
      | accumulating => rfl
      | validated b => exact absurd h (hv b)
      | rejected errors => exact absurd h (hr errors)
    apply orRefuse_cases fault
    intro errors herrors
    cases errors with
    | nil => exact valid hopen herrors
    | cons e es => exact invalid _ hopen herrors (by simp)

theorem build_of_valid {a : Assembly} (hopen : a.stage.isFinal = false) (h : a.errors = .ok []) :
    a.build = ({ a with stage := .validated a.blueprint }, .ok a.blueprint) := by
  apply build_cases (P := fun s => s = _)
  . intro b hb
    simp [hb, Stage.isFinal] at hopen
  . intro errors hr
    simp [hr, Stage.isFinal] at hopen
  . intro f hf
    simp [h] at hf
  . intro _ _
    rfl
  . intro errors _ herrors hne
    rw [h, Except.ok.injEq] at herrors
    exact absurd herrors.symm hne

end Automation.Assembly
