import Automation.Blueprint.Document
import Automation.Proofs.Json.Coercion

/-!
This module contains the grammar of documents of blueprints: which shape they have, and what is read
from each part of them. A route is read just where it has its shape, from its own fields and those
of its first condition.
-/

namespace Automation

namespace Blueprint

def IsGroups (v : Json) : Prop :=
  ∃ groups : List (List Json), v = .array (groups.map .array) ∧
    ∀ x rest more, groups = (x :: rest) :: more → ∃ fs, x = .object fs

def IsFilter (v : Json) : Prop :=
  ∃ filter : Fields, v = .object filter ∧
    ∀ c ∈ filter.get? "conditions", c.isVoid = true ∨ IsGroups c

def IsRoute (v : Json) : Prop :=
  ∃ route : Fields, v = .object route ∧
    ∀ f ∈ route.get? "filter", f.isVoid = true ∨ IsFilter f

def IsModule (v : Json) : Prop :=
  ∃ fs : Fields, v = .object fs ∧
    (∃ id : Int, fs.get? "id" = some (.int id)) ∧
    (∀ p ∈ fs.get? "parameters", p.isVoid = true ∨ p.IsMapping) ∧
    ∀ rs ∈ fs.get? "routes", ∃ routes, rs = .array routes ∧ ∀ r ∈ routes, IsRoute r

def IsConnection (v : Json) : Prop :=
  ∃ fs : Fields, v = .object fs ∧
    (∃ source : Int, fs.get? "source" = some (.int source)) ∧
    ∃ target : Int, fs.get? "target" = some (.int target)

/-- The shape of documents from which blueprints can be read. -/
structure IsGrammatical (fields : Fields) : Prop where
  metadata : ∀ v ∈ fields.get? "metadata", v.isVoid = true ∨ ∃ fs, v = .object fs
  modules : ∀ v ∈ fields.get? "modules", ∃ xs, v.Yields xs ∧ ∀ x ∈ xs, IsModule x
  connections : ∀ v ∈ fields.get? "connections", ∃ xs, v.Yields xs ∧ ∀ x ∈ xs, IsConnection x
  variableDefs : ∀ v ∈ fields.get? "variables", ∃ xs, v.Yields xs
  dataStores : ∀ v ∈ fields.get? "dataStores", ∃ xs, v.Yields xs

/-- The object in a field, or none of its fields where the field is missing or void. -/
def HoldsObject (fields : Fields) (name : String) (inner : Fields) : Prop :=
  fields.get? name = some (.object inner) ∨
    inner = [] ∧ ∀ v ∈ fields.get? name, v.isVoid = true

def FirstCondition (filter condition : Fields) : Prop :=
  (∃ rest more,
    filter.get? "conditions" = some (.array (.array (.object condition :: rest) :: more))) ∨
  condition = [] ∧ ∀ x rest more,
    filter.get? "conditions" ≠ some (.array (.array (x :: rest) :: more))

def firstGiven (values : List (Option Json)) (default : Json) : Json :=
  ((values.filterMap id).find? (! ·.isVoid)).getD default

structure ReadsFilter (label : Json) (filter : Fields) (f : RouteFilter) : Prop where
  name : f.name = filter.getD "name" label
  condition : ∃ condition, FirstCondition filter condition ∧
    f.field = .string (condition.getD "a" "").text ∧
    f.operator = .string (condition.getD "o" "equal").text ∧
    f.value = .string (condition.getD "b" "").text

def ReadsRoute (position : Nat) (v : Json) (r : Route) : Prop :=
  ∃ route filter : Fields, v = .object route ∧
    r.id = route.getD "id" (.int position) ∧
    r.label = firstGiven [route.get? "label", route.get? "name"] ("Route " ++ toString position) ∧
    HoldsObject route "filter" filter ∧ ReadsFilter r.label filter r.filter

def ReadsModule (v : Json) (n : Node) : Prop :=
  ∃ fs : Fields, v = .object fs ∧
    fs.get? "id" = some (.int n.id) ∧
    n.moduleType = fs.getD "module" "" ∧ n.version = fs.getD "version" 1 ∧
    n.mapper = fs.getD "mapper" .null ∧ n.metadata = fs.getD "metadata" .null ∧
    ((fs.getD "parameters" .null).orElse (.object [])).toFields = .ok n.parameters ∧
    (n.isRouter = true ↔ fs.has "routes" = true) ∧
    ∀ rs, fs.get? "routes" = some (.array rs) → ∃ routes, n.routes = some routes ∧
      routes.length = rs.length ∧
      ∀ i v r, rs[i]? = some v → routes[i]? = some r → ReadsRoute (i + 1) v r

def ReadsConnection (v : Json) (c : Connection) : Prop :=
  ∃ fs : Fields, v = .object fs ∧
    (∃ source : Int, fs.get? "source" = some (.int source) ∧ c.source = .int source) ∧
    (∃ target : Int, fs.get? "target" = some (.int target) ∧ c.target = .int target) ∧
    c.route = fs.getD "route" .null

structure Reads (fields : Fields) (b : Blueprint) : Prop where
  metadata : ∃ metadata : Fields, HoldsObject fields "metadata" metadata ∧
    b.name = metadata.getD "name" "" ∧ b.description = metadata.getD "description" "" ∧
    b.version = metadata.getD "version" 2
  nodes : ∃ modules, (fields.getD "modules" (.array [])).Yields modules ∧
    List.Forall₂ ReadsModule modules b.nodes
  connections : ∃ ends, (fields.getD "connections" (.array [])).Yields ends ∧
    List.Forall₂ ReadsConnection ends b.connections
  scheduling : b.scheduling = fields.getD "scheduling" .null
  variableDefs : (fields.getD "variables" (.array [])).Yields b.variableDefs
  dataStores : (fields.getD "dataStores" (.array [])).Yields b.dataStores
  settings : b.settings = fields.getD "settings" .null

section Fields

variable {fields : Fields} {name : String} {P : Json → Prop}

theorem getD_iff {default : Json} (hdefault : P default) :
    P (fields.getD name default) ↔ ∀ v ∈ fields.get? name, P v := by
  unfold Fields.getD
  cases fields.get? name with
  | none => simp [hdefault]
  | some v => simp

theorem orElse_getD_iff {default : Json} (hdefault : P default) :
    P ((fields.getD name .null).orElse default) ↔
      ∀ v ∈ fields.get? name, v.isVoid = true ∨ P v := by
  have hnull : Json.null.isVoid = true ∨ P .null := .inl rfl
  rw [← getD_iff hnull]
  unfold Json.orElse
  split
  . rename_i hvoid
    exact iff_of_true hdefault (.inl hvoid)
  . rename_i hvoid
    exact (or_iff_right hvoid).symm

theorem moduleId_eq_ok_iff {role : String} {v : Json} {n : Int} :
    moduleId role v = .ok n ↔ v = .int n := by
  cases v with
  | int m => simp [moduleId]
  | _ => simp [moduleId]

theorem checked_eq_ok_iff {α : Type} {x : Except Fault α} {a : α} :
    checked x = .ok a ↔ x = .ok a := by
  cases x <;> simp [checked, Except.mapError]

theorem asObject_eq_ok_iff {v : Json} {fs : Fields} : v.asObject = .ok fs ↔ v = .object fs := by
  cases v with
  | object gs => simp [Json.asObject]
  | _ => simp [Json.asObject]

theorem asObjectOr_eq_ok_iff {m : Malformed} {v : Json} {fs : Fields} :
    asObjectOr m v = .ok fs ↔ v = .object fs := by
  cases v with
  | object gs => simp [asObjectOr]
  | _ => simp [asObjectOr]

theorem getD_eq_iff {v : Json} (h : v ≠ .null) :
    fields.getD name .null = v ↔ fields.get? name = some v := by
  unfold Fields.getD
  cases fields.get? name with
  | none => simp [h.symm]
  | some w => simp

theorem orElse_eq_object_iff {inner : Fields} :
    (fields.getD name .null).orElse (.object []) = .object inner ↔ HoldsObject fields name inner := by
  unfold HoldsObject Fields.getD Json.orElse
  cases fields.get? name with
  | none =>
    simp [Json.isVoid]
  | some v =>
    rw [Option.getD_some]
    split
    . rename_i hvoid
      have hempty : v = .object inner → inner = [] := by
        rintro rfl
        exact List.isEmpty_iff.1 hvoid
      rw [Json.object.injEq]
      simp only [Option.some.injEq, Option.mem_def, forall_eq', hvoid, and_true]
      rw [@eq_comm _ inner]
      exact ⟨.inr, fun h => h.elim (fun h => (hempty h).symm) id⟩
    . rename_i hvoid
      simp [hvoid]

end Fields

section Filter

variable {filter : Fields} {label : Json}

theorem firstCondition_eq_ok_iff {groups : List (List Json)} {condition : Fields} :
    firstCondition groups = .ok condition ↔
      (∃ rest more, groups = (.object condition :: rest) :: more) ∨
        condition = [] ∧ ∀ x rest more, groups ≠ (x :: rest) :: more := by
  match groups with
  | (x :: rest) :: more => cases x <;> simp [firstCondition]
  | [] :: more => simp [firstCondition]
  | [] => simp [firstCondition]

theorem exists_firstCondition_iff {groups : List (List Json)} :
    (∃ condition, firstCondition groups = .ok condition) ↔
      ∀ x rest more, groups = (x :: rest) :: more → ∃ fs, x = .object fs := by
  match groups with
  | (x :: rest) :: more => cases x <;> simp [firstCondition]
  | [] :: more => simp [firstCondition]
  | [] => simp [firstCondition]

def defaultGroups : Json := .array [.array [.object []]]

theorem readGroups_eq_ok_iff {groups : List (List Json)} : readGroups filter = .ok groups ↔
    (filter.getD "conditions" .null).orElse defaultGroups = .array (groups.map .array) := by
  unfold readGroups defaultGroups
  split
  . rename_i gs hgs
    rw [hgs, mapM_eq_ok_iff, Json.array.injEq, ← List.forall₂_eq_eq_eq, List.forall₂_map_right_iff]
    constructor
    all_goals
      apply List.Forall₂.imp
      intro g group
      cases g <;> simp
  . rename_i h
    simpa using h _

theorem exists_readFilter_iff : (∃ f, readFilter label filter = .ok f) ↔
    ∀ c ∈ filter.get? "conditions", c.isVoid = true ∨ IsGroups c := by
  have hdefault : IsGroups defaultGroups := by
    refine ⟨[[.object []]], rfl, ?_⟩
    rintro x rest more ⟨⟩
    exact ⟨[], rfl⟩
  rw [← orElse_getD_iff hdefault, readFilter, exists_bind_iff]
  constructor
  . rintro ⟨groups, hgroups, h⟩
    obtain ⟨condition, hcondition, -⟩ := exists_bind_iff.1 h
    exact ⟨groups, readGroups_eq_ok_iff.1 hgroups, exists_firstCondition_iff.1 ⟨_, hcondition⟩⟩
  . rintro ⟨groups, hgroups, hfirst⟩
    obtain ⟨condition, hcondition⟩ := exists_firstCondition_iff.2 hfirst
    exact ⟨groups, readGroups_eq_ok_iff.2 hgroups, exists_bind_iff.2 ⟨condition, hcondition, _, rfl⟩⟩

theorem firstCondition_of_readGroups {groups : List (List Json)} {condition : Fields}
    (hgroups : readGroups filter = .ok groups)
    (hcondition : firstCondition groups = .ok condition) : FirstCondition filter condition := by
  rw [readGroups_eq_ok_iff, Json.orElse] at hgroups
  split at hgroups
  . rename_i hvoid
    have hdefault : [[Json.object []]] = groups := by
      apply List.map_injective_iff.2 (fun _ _ => Json.array.inj)
      exact Json.array.inj hgroups
    subst hdefault
    cases hcondition
    refine .inr ⟨rfl, fun x rest more h => ?_⟩
    rw [Fields.getD, h] at hvoid
    cases hvoid
  . rw [getD_eq_iff (by simp)] at hgroups
    unfold FirstCondition
    rw [hgroups]
    rcases firstCondition_eq_ok_iff.1 hcondition with ⟨rest, more, rfl⟩ | ⟨rfl, hnone⟩
    . exact .inl ⟨rest, _, rfl⟩
    . refine .inr ⟨rfl, fun x rest more h => ?_⟩
      simp only [Option.some.injEq, Json.array.injEq, List.map_eq_cons_iff] at h
      obtain ⟨group, others, hgroups, hgroup, -⟩ := h
      cases hgroup
      exact hnone x rest others hgroups

theorem readsFilter_of_readFilter {f : RouteFilter} (h : readFilter label filter = .ok f) :
    ReadsFilter label filter f := by
  obtain ⟨groups, hgroups, h⟩ := bind_eq_ok.1 h
  obtain ⟨condition, hcondition, ⟨⟩⟩ := bind_eq_ok.1 h
  exact ⟨rfl, condition, firstCondition_of_readGroups hgroups hcondition, rfl, rfl, rfl⟩

end Filter

section Route

variable {position : Nat} {v : Json}

theorem firstGiven_cons (o : Option Json) (os : List (Option Json)) (default : Json) :
    firstGiven (o :: os) default = (o.getD .null).orElse (firstGiven os default) := by
  cases o with
  | none => rfl
  | some v =>
    unfold firstGiven Json.orElse
    cases hvoid : v.isVoid <;> simp [hvoid]

theorem readLabel_eq (route : Fields) : readLabel position route =
    firstGiven [route.get? "label", route.get? "name"] ("Route " ++ toString position) := by
  rw [firstGiven_cons, firstGiven_cons]
  rfl

theorem isFilter_empty : IsFilter (.object []) :=
  ⟨[], rfl, by simp⟩

theorem exists_readRoute_iff : (∃ r, readRoute position v = .ok r) ↔ IsRoute v := by
  unfold readRoute IsRoute
  simp only [← orElse_getD_iff isFilter_empty]
  constructor
  . rintro ⟨r, h⟩
    obtain ⟨route, hroute, h⟩ := bind_eq_ok.1 h
    obtain ⟨filter, hfilter, h⟩ := bind_eq_ok.1 h
    obtain ⟨f, hf, -⟩ := bind_eq_ok.1 h
    rw [asObjectOr_eq_ok_iff] at hroute hfilter
    exact ⟨route, hroute, filter, hfilter, exists_readFilter_iff.1 ⟨f, hf⟩⟩
  . rintro ⟨route, rfl, filter, hfilter, hconditions⟩
    obtain ⟨f, hf⟩ := exists_readFilter_iff.2 hconditions
    refine ⟨_, bind_eq_ok.2 ⟨route, rfl, bind_eq_ok.2 ⟨filter, ?_, bind_eq_ok.2 ⟨f, hf, rfl⟩⟩⟩⟩
    exact asObjectOr_eq_ok_iff.2 hfilter

theorem readsRoute_of_readRoute {r : Route} (h : readRoute position v = .ok r) :
    ReadsRoute position v r := by
  obtain ⟨route, hroute, h⟩ := bind_eq_ok.1 h
  obtain ⟨filter, hfilter, h⟩ := bind_eq_ok.1 h
  obtain ⟨f, hf, ⟨⟩⟩ := bind_eq_ok.1 h
  rw [asObjectOr_eq_ok_iff] at hroute hfilter
  exact ⟨route, filter, hroute, rfl, readLabel_eq route, orElse_eq_object_iff.1 hfilter,
    readsFilter_of_readFilter hf⟩

theorem exists_readRoutes_iff {vs : List Json} :
    (∃ rs, readRoutes position vs = .ok rs) ↔ ∀ v ∈ vs, IsRoute v := by
  -- The position grows with each route, and no route is refused for its position.
  induction vs generalizing position with
  | nil => simp [readRoutes]
  | cons v vs ih =>
    rw [readRoutes, List.forall_mem_cons, ← @exists_readRoute_iff position v,
      ← @ih (position + 1)]
    constructor
    . rintro ⟨rs, h⟩
      obtain ⟨r, hr, h⟩ := bind_eq_ok.1 h
      obtain ⟨rest, hrest, -⟩ := bind_eq_ok.1 h
      exact ⟨⟨r, hr⟩, rest, hrest⟩
    . rintro ⟨⟨r, hr⟩, rest, hrest⟩
      exact ⟨_, bind_eq_ok.2 ⟨r, hr, bind_eq_ok.2 ⟨rest, hrest, rfl⟩⟩⟩

theorem readsRoute_of_readRoutes {vs : List Json} {rs : List Route}
    (h : readRoutes position vs = .ok rs) : rs.length = vs.length ∧
      ∀ i v r, vs[i]? = some v → rs[i]? = some r → ReadsRoute (position + i) v r := by
  induction vs generalizing position rs with
  | nil =>
    cases h
    simp
  | cons v vs ih =>
    obtain ⟨r, hr, h⟩ := bind_eq_ok.1 h
    obtain ⟨rest, hrest, ⟨⟩⟩ := bind_eq_ok.1 h
    obtain ⟨hlength, hreads⟩ := ih hrest
    refine ⟨by simp [hlength], ?_⟩
    intro i w s hw hs
    cases i with
    | zero =>
      cases hw
      cases hs
      exact readsRoute_of_readRoute hr
    | succ i =>
      rw [← Nat.add_assoc, Nat.add_right_comm]
      exact hreads i w s hw hs

end Route

end Blueprint

end Automation
