import Automation.Proofs.Compilation.Shape

/-!
This module contains what a compiled blueprint owes to its description: which modules it has in
which order, how they are numbered, placed and connected, when there is a router and what routes it
has, and what stands beside the modules.
-/

namespace Automation.Compilation

/-- The graph of a compilation follows the clauses of its description, and nothing else. -/
structure Follows (t : Tuning) (catalog : Catalog) (sleepSeconds : Json) (description : String)
    (name : Json) (c : Compilation) : Prop where
  extraction : Description.extract description = .ok c.extraction
  resolutions : c.resolutions =
    Resolution.trigger catalog (c.extraction.trigger.map (·.text)) ::
      c.extraction.actions.map fun a => Resolution.action catalog sleepSeconds a.text
  length : c.blueprint.nodes.length =
    1 + c.extraction.actions.length + if c.extraction.conditions = [] then 0 else 1
  ids : c.blueprint.ids =
    (List.range' 1 c.blueprint.nodes.length).map fun k : Nat => (k : Int)
  resolved : ∀ (k : Nat) (r : Resolution), c.resolutions[k]? = some r → ∃ n : Node,
    c.blueprint.nodes[k]? = some n ∧
    n.moduleType = .string r.moduleType ∧ n.version = .int r.version ∧
    n.parameters = r.parameters ∧ n.mapper = .null ∧ n.routes = none
  router : ∀ (k : Nat) (n : Node), c.blueprint.nodes[k]? = some n →
    (n.isRouter = true ↔ c.extraction.conditions ≠ [] ∧ k + 1 = c.blueprint.nodes.length)
  routes : c.extraction.conditions ≠ [] → ∃ (n : Node) (routes : List Route),
    c.blueprint.nodes.getLast? = some n ∧
    n.moduleType = .string Node.routerType ∧
    n.version = .int (catalog.versionOf Node.routerType) ∧ n.parameters = [] ∧
    n.mapper = .null ∧ n.routes = some routes ∧
    routes = Route.ofConditions t.routeFieldSource (c.extraction.conditions.map (·.text)) ∧
    routes.length = c.extraction.conditions.length
  connections : c.blueprint.connections =
    (List.range' 1 (c.blueprint.nodes.length - 1)).map fun k : Nat =>
      { source := .int k, target := .int (k + 1), route := .null }
  metadata : ∀ (k : Nat) (n : Node), c.blueprint.nodes[k]? = some n → n.metadata =
    .object [("designer", .object [("x", .int (t.layoutSpacing * k)), ("y", .int 0)])]
  scheduling : c.blueprint.scheduling =
    match c.extraction.schedule with
    | some s => .object [("interval", .int s.interval)]
    | none => .null
  variableDefs : c.blueprint.variableDefs = []
  dataStores : c.blueprint.dataStores = []
  settings : c.blueprint.settings = .null
  version : c.blueprint.version = .int Blueprint.formatVersion
  name : c.blueprint.name = name.orElse
    (.string (Description.deriveName description (some t.nameWordLimit) t.defaultName))
  description : c.blueprint.description = .string (blueprintDescription t description)

section

variable {t : Tuning} {catalog : Catalog} {e : Extraction} {rs : List Resolution} {k : Nat}
  {n : Node}

theorem length_nodesOf : (nodesOf t catalog e rs).length =
    rs.length + if e.conditions = [] then 0 else 1 := by
  unfold nodesOf
  cases e.conditions <;> simp

theorem getElem?_nodesOf (h : (nodesOf t catalog e rs)[k]? = some n) :
    (∃ r, rs[k]? = some r ∧ n = resolvedNode t.layoutSpacing k r) ∨
      k = rs.length ∧ e.conditions ≠ [] ∧
        n = routerNode t.layoutSpacing k (catalog.versionOf Node.routerType) (routesOf t e) := by
  unfold nodesOf at h
  rw [List.getElem?_append, List.length_mapIdx] at h
  split at h
  . rename_i hk
    left
    rw [List.getElem?_mapIdx, List.getElem?_eq_getElem hk, Option.map_some, Option.some.injEq] at h
    exact ⟨rs[k], List.getElem?_eq_getElem hk, h.symm⟩
  . rename_i hk
    right
    cases hconditions : e.conditions with
    | nil => simp [hconditions] at h
    | cons c cs =>
      rw [hconditions] at h
      simp only [List.isEmpty_cons, Bool.false_eq_true, if_false, List.getElem?_singleton] at h
      split at h
      . have : k = rs.length := by omega
        subst this
        exact ⟨rfl, by simp, (Option.some.inj h).symm⟩
      . cases h

theorem getLast?_nodesOf (h : e.conditions ≠ []) : (nodesOf t catalog e rs).getLast? =
    some (routerNode t.layoutSpacing rs.length (catalog.versionOf Node.routerType)
      (routesOf t e)) := by
  unfold nodesOf
  rw [if_neg (by simpa using h), List.getLast?_concat]

end

theorem follows_of_compileText {t : Tuning} {catalog : Catalog} {sleepSeconds name : Json}
    {description : String} {c : Compilation}
    (hc : (compileText t catalog sleepSeconds description name).result = .ok c) :
    c.Follows t catalog sleepSeconds description name := by
  obtain ⟨hextract, hblank, hresolutions, hblueprint⟩ := eq_of_compileText hc
  have hnodes : c.blueprint.nodes = nodesOf t catalog c.extraction c.resolutions := by
    rw [hblueprint]
    rfl
  have hresolve : c.resolutions =
      Resolution.trigger catalog (c.extraction.trigger.map (·.text)) ::
        c.extraction.actions.map fun a => Resolution.action catalog sleepSeconds a.text := by
    rw [hresolutions, resolve, hblank]
    rfl
  have hlength : c.resolutions.length = 1 + c.extraction.actions.length := by
    rw [hresolve, List.length_cons, List.length_map, Nat.add_comm]
  exact {
    extraction := hextract
    resolutions := hresolve
    length := by rw [hnodes, length_nodesOf, hlength]
    ids := by
      change c.blueprint.nodes.map Node.id = _
      rw [hnodes, ids_nodesOf]
    resolved := by
      intro k r hr
      have hk := (List.getElem?_eq_some_iff.1 hr).1
      refine ⟨resolvedNode t.layoutSpacing k r, ?_, rfl, rfl, rfl, rfl, rfl⟩
      rw [hnodes, nodesOf, List.getElem?_append_left (by simpa using hk), List.getElem?_mapIdx, hr]
      rfl
    router := by
      intro k n hn
      rw [hnodes] at hn ⊢
      rw [length_nodesOf]
      rcases getElem?_nodesOf hn with ⟨r, hr, rfl⟩ | ⟨rfl, hconditions, rfl⟩
      . have hk := (List.getElem?_eq_some_iff.1 hr).1
        constructor
        . intro h
          cases h
        . rintro ⟨hconditions, hlast⟩
          rw [if_neg hconditions] at hlast
          omega
      . simp [hconditions, routerNode, Node.isRouter]
    routes := by
      intro hconditions
      refine ⟨_, _, by rw [hnodes, getLast?_nodesOf hconditions], rfl, rfl, rfl, rfl, rfl, rfl, ?_⟩
      simp [Route.ofConditions]
    connections := by
      rw [hblueprint]
      rfl
    metadata := by
      intro k n hn
      rw [hnodes] at hn
      rcases getElem?_nodesOf hn with ⟨r, _, rfl⟩ | ⟨_, _, rfl⟩ <;> rfl
    scheduling := by
      rw [hblueprint]
      rfl
    variableDefs := by
      rw [hblueprint]
      rfl
    dataStores := by
      rw [hblueprint]
      rfl
    settings := by
      rw [hblueprint]
      rfl
    version := by
      rw [hblueprint]
      rfl
    name := by
      rw [hblueprint]
      rfl
    description := by
      rw [hblueprint]
      rfl }

def mailExample : String :=
  "when mail, call if x is 5 daily"

theorem follows_of_compileText_mailExample : ∃ c : Compilation,
    (compileText {} ⟨[], "1"⟩ (.int 5) mailExample .null).result = .ok c ∧
      c.Follows {} ⟨[], "1"⟩ (.int 5) mailExample .null := by
  have hsome : (compileText {} ⟨[], "1"⟩ (.int 5) mailExample .null).result.toOption.isSome := by
    decide +kernel
  cases hc : (compileText {} ⟨[], "1"⟩ (.int 5) mailExample .null).result with
  | error f =>
    rw [hc] at hsome
    cases hsome
  | ok c => exact ⟨c, rfl, follows_of_compileText hc⟩

end Automation.Compilation
