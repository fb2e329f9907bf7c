import Automation.Proofs.Assembly.Operation

/-!
This module contains what the first build settles. From then on the assembly stays as it is: changes
are refused, and to check or to build it again gives what the first build gave.
-/

namespace Automation.Assembly

/-- What the first build comes to: a blueprint, or the errors for which there is none. -/
abbrev Verdict := Except (List Text) Blueprint

namespace Verdict

def stage : Verdict → Stage
  | .ok b => .validated b
  | .error errors => .rejected errors

def errors : Verdict → List Text
  | .ok _ => []
  | .error errors => errors

theorem isFinal_stage (verdict : Verdict) : verdict.stage.isFinal = true := by
  cases verdict <;> rfl

theorem exists_of_isFinal {stage : Stage} (h : stage.isFinal = true) :
    ∃ verdict : Verdict, stage = verdict.stage := by
  cases stage with
  | empty => cases h
  | accumulating => cases h
  | validated b => exact ⟨.ok b, rfl⟩
  | rejected errors => exact ⟨.error errors, rfl⟩

end Verdict

def Operation.answerAfter (verdict : Verdict) : Operation → Except Refusal Answer
  | .validate => .ok (.checked verdict.errors)
  | .build => (verdict.mapError .invalid).map .built
  | _ => .error (.closed verdict.stage.name)

/-- The stage is the verdict on the content, which is rejected for some error or for none. -/
structure IsSettled (a : Assembly) (verdict : Verdict) : Prop where
  stage : a.stage = verdict.stage
  errors : a.blueprint.errors = .ok verdict.errors
  blueprint : ∀ b, verdict = .ok b → b = a.blueprint
  rejected : ∀ errors, verdict = .error errors → errors ≠ []

theorem IsSettled.build {a : Assembly} {verdict : Verdict} (h : a.IsSettled verdict) :
    a.build = (a, verdict.mapError .invalid) := by
  have hstage := h.stage
  unfold Assembly.build
  cases verdict with
  | ok b =>
    rw [hstage]
    rfl
  | error errors =>
    rw [hstage]
    rfl

theorem IsSettled.apply {a : Assembly} {verdict : Verdict} (h : a.IsSettled verdict)
    (op : Operation) : op.apply a = (a, op.answerAfter verdict) := by
  have hclosed : ∀ {α : Type} (step : Assembly → Step α) (f : α → Answer),
      answering (a.whenOpen step) f = (a, .error (.closed verdict.stage.name)) := by
    intro α step f
    rw [whenOpen_closed (by rw [h.stage, verdict.isFinal_stage]), h.stage]
    rfl
  cases op with
  | validate =>
    change (a, (a.blueprint.errors.mapError Refusal.fault).map Answer.checked) = _
    rw [h.errors]
    rfl
  | build =>
    change answering a.build .built = _
    rw [h.build]
    rfl
  | appendRouter given version =>
    cases given with
    | ok routes => exact hclosed _ _
    | error f => exact hclosed _ _
  | _ => exact hclosed _ _

theorem IsSettled.run {a : Assembly} {verdict : Verdict} (h : a.IsSettled verdict)
    (ops : List Operation) :
    a.run ops = (a, ops.map fun op => ⟨op, op.answerAfter verdict⟩) := by
  induction ops with
  | nil => rfl
  | cons op ops ih => rw [run_cons, h.apply op, ih, List.map_cons]

def IsSound (a : Assembly) : Prop :=
  ∀ verdict : Verdict, a.stage = verdict.stage → a.IsSettled verdict

theorem isSound_of_open {a : Assembly} (h : a.stage.isFinal = false) : a.IsSound := by
  intro verdict hverdict
  rw [hverdict, verdict.isFinal_stage] at h
  cases h

theorem isFinal_apply {op : Operation} (hop : op ≠ .build) {a : Assembly}
    (h : a.stage.isFinal = false) : (op.apply a).1.stage.isFinal = false := by
  cases op with
  | setMetadata name description =>
    apply whenOpen_cases (P := fun s => (answering s _).1.stage.isFinal = false)
    . intro _
      exact h
    . intro _
      exact h
  | appendModule moduleType version parameters mapper =>
    apply appendModule_cases (P := fun s => (answering s _).1.stage.isFinal = false)
    . exact h
    . intro _
      exact h
    . intro _ _ _ _ _ _
      rfl
  | appendRouter given version =>
    apply appendRouterOf_cases (P := fun s => (answering s _).1.stage.isFinal = false)
    . intro _
      exact h
    . intro _
      exact h
    . intro _ _ _ _ _
      rfl
  | appendAuxiliary kind data =>
    apply appendAuxiliary_cases (P := fun s => (answering s _).1.stage.isFinal = false)
    . intro _
      exact h
    . intro _ _ _ _ _ _
      rfl
  | connect source target route =>
    apply whenOpen_cases (P := fun s => (answering s _).1.stage.isFinal = false)
    . intro _
      exact h
    . intro _
      rfl
  | decorate id mapper metadata =>
    apply decorate_cases (P := fun s => (answering s _).1.stage.isFinal = false)
    intro _ _ _
    exact h
  | validate => exact h
  | build => exact absurd rfl hop

theorem isFinal_run {ops : List Operation} (hops : ∀ op ∈ ops, op ≠ .build) {a : Assembly}
    (h : a.stage.isFinal = false) : (a.run ops).1.stage.isFinal = false := by
  induction ops generalizing a with
  | nil => exact h
  | cons op ops ih =>
    rw [List.forall_mem_cons] at hops
    apply ih hops.2
    exact isFinal_apply hops.1 h

theorem isSound_build {a : Assembly} (h : a.stage.isFinal = false) : a.build.1.IsSound := by
  apply build_cases (P := fun s => s.1.IsSound)
  . intro _ _
    exact isSound_of_open h
  . intro _ _
    exact isSound_of_open h
  . intro _ _
    exact isSound_of_open h
  . intro _ hvalid verdict hverdict
    cases verdict with
    | ok b =>
      cases hverdict
      exact ⟨rfl, hvalid, by simp [blueprint], by simp⟩
    | error errors => cases hverdict
  . intro errors _ herrors hne verdict hverdict
    cases verdict with
    | ok b => cases hverdict
    | error errors' =>
      cases hverdict
      exact ⟨rfl, herrors, by simp, by simpa using hne⟩

theorem IsSound.apply {a : Assembly} (h : a.IsSound) (op : Operation) : (op.apply a).1.IsSound := by
  cases hfinal : a.stage.isFinal with
  | true =>
    obtain ⟨verdict, hverdict⟩ := Verdict.exists_of_isFinal hfinal
    rw [(h verdict hverdict).apply op]
    exact h
  | false =>
    by_cases hop : op = .build
    . rw [hop]
      exact isSound_build hfinal
    . exact isSound_of_open (isFinal_apply hop hfinal)

theorem run_isSound (spacing name description : Json) (ops : List Operation) :
    ((start spacing name description).run ops).1.IsSound :=
  run_induction (isSound_of_open rfl) (fun _ op h => h.apply op) ops

theorem stage_of_build {a : Assembly} {verdict : Verdict}
    (h : a.build.2 = verdict.mapError .invalid) : a.build.1.stage = verdict.stage := by
  revert h
  apply build_cases (P := fun s => s.2 = verdict.mapError .invalid → s.1.stage = verdict.stage)
  . intro b hb heq
    cases verdict <;> cases heq
    exact hb
  . intro errors hr heq
    cases verdict <;> cases heq
    exact hr
  . intro f _ heq
    cases verdict <;> cases heq
  . intro _ _ heq
    cases verdict <;> cases heq
    rfl
  . intro errors _ _ _ heq
    cases verdict <;> cases heq
    rfl

structure Absorbs (a : Assembly) (verdict : Verdict) : Prop extends a.IsSettled verdict where
  run : ∀ more, a.run more = (a, more.map fun op => ⟨op, op.answerAfter verdict⟩)
  resolution : ∀ r, a.appendResolution r = (a, .error (.closed verdict.stage.name))

theorem IsSettled.absorbs {a : Assembly} {verdict : Verdict} (h : a.IsSettled verdict) :
    a.Absorbs verdict where
  toIsSettled := h
  run := h.run
  resolution := by
    intro r
    unfold appendResolution appendModule
    rw [whenOpen_closed (by rw [h.stage, verdict.isFinal_stage]), h.stage]

/-- The first build is the last word, be it a blueprint or a rejection; no stage is
final without. -/
theorem run_absorbs (spacing name description : Json) (ops : List Operation) :
    (∀ verdict : Verdict,
      ((start spacing name description).run ops).1.build.2 = verdict.mapError .invalid →
      ((start spacing name description).run ops).1.build.1.Absorbs verdict) ∧
    ∀ verdict : Verdict, ((start spacing name description).run ops).1.stage = verdict.stage →
      ((start spacing name description).run ops).1.Absorbs verdict := by
  have hsound := run_isSound spacing name description ops
  constructor
  . intro verdict hbuild
    exact (hsound.apply .build verdict (stage_of_build hbuild)).absorbs
  . intro verdict hstage
    exact (hsound verdict hstage).absorbs

theorem run_absorbs_of_oneModule :
    (∃ b, ((start 300 "a" "b").run [.appendModule "m" 1 .null .null]).1.build.2 = .ok b ∧
      ((start 300 "a" "b").run [.appendModule "m" 1 .null .null]).1.build.1.Absorbs (.ok b)) ∧
    ((start 300 "a" "b").run [.build]).1.stage =
      .rejected ["Blueprint must have at least one module"] ∧
    ((start 300 "a" "b").run [.build]).1.Absorbs
      (.error ["Blueprint must have at least one module"]) := by
  have hsome : ((start 300 "a" "b").run
      [.appendModule "m" 1 .null .null]).1.build.2.toOption.isSome := by
    decide +kernel
  have hstage : ((start 300 "a" "b").run [.build]).1.stage =
      .rejected ["Blueprint must have at least one module"] := by
    decide +kernel
  refine ⟨?_, hstage, (run_absorbs 300 "a" "b" [.build]).2 (.error _) hstage⟩
  cases hbuild : ((start 300 "a" "b").run [.appendModule "m" 1 .null .null]).1.build.2 with
  | error r =>
    rw [hbuild] at hsome
    cases hsome
  | ok b => exact ⟨b, rfl, (run_absorbs 300 "a" "b" _).1 (.ok b) hbuild⟩

end Automation.Assembly
