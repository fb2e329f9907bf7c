import Automation.Proofs.Blueprint.Report
import Automation.Proofs.Compilation.Artifact
import Automation.Proofs.Resolution

/-!
This module contains the account that a compilation gives of the modules that stand in for others:
its log, the count at the end of the log and the report name the same ones in the same order. They
stand in where no service is named, or none that can start an automation.
-/

namespace Automation

namespace Compilation

/-- The first resolution is that of the trigger, and all others are those of actions. -/
def withRoles : List Resolution → List (Log.Role × Resolution)
  | [] => []
  | trigger :: actions => (.trigger, trigger) :: actions.map fun r => (.action, r)

def standIns (rs : List Resolution) : List (Log.Role × Resolution) :=
  (withRoles rs).filter (·.2.isFallback)

def standInEntry (role : Log.Role) (r : Resolution) : Json :=
  .object [
    ("event", "resolver.fallback"),
    ("level", "info"),
    ("stage", .string role.name),
    ("service", r.serviceName),
    ("module", .string r.moduleType)
  ]

structure AccountsFor (c : Compilation) (events : List Log.Event) : Prop where
  log : events.map Log.Event.toJson =
    (standIns c.resolutions).map (fun (role, r) => standInEntry role r) ++ [.object [
      ("event", "compiler.compiled"),
      ("level", "info"),
      ("name", c.blueprint.name),
      ("modules", .int c.blueprint.nodes.length),
      ("connections", .int c.blueprint.connections.length),
      ("fallbacks", .int (c.resolutions.filter (·.isFallback)).length)
    ]]
  count : (standIns c.resolutions).length = (c.resolutions.filter (·.isFallback)).length
  report : ∀ id catalogVersion runtimeMs, ∃ report,
    c.blueprint.report id (Resolution.fallbacks c.resolutions) catalogVersion runtimeMs =
      .ok report ∧
    report.fallbacks = (standIns c.resolutions).map fun (_, r) =>
      { moduleType := .string r.moduleType, service := r.serviceName }
  trigger : ∀ r ∈ c.resolutions.head?,
    r.isFallback = true ↔ ∀ s, r.service = some s → ∀ text, s.trigger? text = none
  actions : ∀ r ∈ c.resolutions.tail, r.isFallback = true ↔ r.service = none

theorem map_standIns (rs : List Resolution) :
    (standIns rs).map (·.2) = rs.filter (·.isFallback) := by
  have hroles : (withRoles rs).map (·.2) = rs := by
    cases rs with
    | nil => rfl
    | cons trigger actions => simp [withRoles, Function.comp_def]
  conv => rhs; rw [← hroles]
  rw [List.filter_map]
  rfl

theorem standIns_cons (trigger : Resolution) (actions : List Resolution) :
    standIns (trigger :: actions) =
      (if trigger.isFallback then [(.trigger, trigger)] else []) ++
        (actions.filter (·.isFallback)).map fun r => (.action, r) := by
  unfold standIns withRoles
  rw [List.filter_cons, List.filter_map]
  cases trigger.isFallback with
  | true => rfl
  | false => rfl

theorem flatMap_events_resolved (catalog : Catalog) (sleepSeconds : Json) (e : Extraction) :
    (resolved catalog sleepSeconds e).flatMap (·.events) =
      (standIns (resolve catalog sleepSeconds e)).map fun (role, r) =>
        .fallback role r.serviceName r.moduleType := by
  rw [← map_resolution_resolved]
  unfold resolved
  split
  . rfl
  . have htrigger := Resolved.isLogged_resolveTrigger catalog (e.trigger.map (·.text))
    have hactions := Resolved.flatMap_events (List.forall_mem_map.2 fun action
      (_ : action ∈ e.actions) => Resolved.isLogged_resolveAction catalog sleepSeconds action.text)
    unfold Resolved.IsLogged at htrigger
    rw [List.flatMap_cons, htrigger, hactions, List.map_cons, standIns_cons, List.map_append]
    congr 1
    . split
      . rfl
      . rfl
    . generalize (List.map _ (List.map _ e.actions)) = rs
      rw [List.map_map]
      rfl

variable {t : Tuning} {catalog : Catalog} {sleepSeconds name : Json} {description : String}
  {c : Compilation}

theorem accountsFor_of_compileText
    (hc : (compileText t catalog sleepSeconds description name).result = .ok c) :
    c.AccountsFor (compileText t catalog sleepSeconds description name).events := by
  obtain ⟨hextract, hblank, hresolutions, hblueprint⟩ := eq_of_compileText hc
  have hresolve : c.resolutions =
      Resolution.trigger catalog (c.extraction.trigger.map (·.text)) ::
        c.extraction.actions.map fun a => Resolution.action catalog sleepSeconds a.text := by
    rw [hresolutions, resolve, hblank]
    rfl
  rw [compileText_outcome hextract hblank t catalog sleepSeconds name hresolutions.symm
    hblueprint.symm]
  exact {
    log := by
      rw [flatMap_events_resolved, ← hresolutions, List.map_append, List.map_map]
      rfl
    count := by
      rw [← map_standIns, List.length_map]
    report := by
      intro id catalogVersion runtimeMs
      obtain ⟨report, hreport, -⟩ := Blueprint.report_eq
        (fun n hn => (moduleType_of_compileText hc n hn).1) id
        (Resolution.fallbacks c.resolutions) catalogVersion runtimeMs
      refine ⟨report, hreport, ?_⟩
      rw [Blueprint.fallbacks_of_report hreport, Resolution.fallbacks, ← map_standIns,
        List.map_map]
      rfl
    trigger := by
      rw [hresolve]
      intro r hr
      cases hr
      apply Resolution.isFallback_trigger
    actions := by
      rw [hresolve]
      intro r hr
      obtain ⟨a, _, rfl⟩ := List.mem_map.1 hr
      apply Resolution.isFallback_action }

def dealExample : String :=
  "when a deal closes, wait"

end Compilation

end Automation
