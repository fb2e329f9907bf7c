import Mathlib.Data.List.Induction
import Automation.Proofs.Assembly.Summary
import Automation.Proofs.Compilation.Follows
import Automation.Proofs.Compilation.Offered

/-!
This module contains the summary of a compiled blueprint. Its modules stand in one chain, at the end
of which the router is, so that there is no second one.
-/

namespace Automation.Compilation

open Assembly (Link IsChained IsTyped chained edgesTo linkOf)

section Chain

variable {t : Tuning} {catalog : Catalog} {e : Extraction} {rs : List Resolution}

theorem chained_concat (last : Option Link) (ls : List Link) (l : Link) :
    chained last (ls ++ [l]) = chained last ls ++ edgesTo l.id (ls.getLast?.or last) := by
  induction ls generalizing last with
  | nil => simp [chained]
  | cons l' ls ih =>
    rw [List.cons_append, chained, ih, chained, List.append_assoc]
    cases ls with
    | nil => rfl
    | cons l'' ls => simp [List.getLast?_cons]

theorem chained_mapIdx_concat {spacing : Int}
    (h : chained none ((rs.mapIdx (resolvedNode spacing)).map linkOf) = chain rs.length)
    (isRouter : Bool) :
    chained none ((rs.mapIdx (resolvedNode spacing)).map linkOf ++ [⟨rs.length + 1, isRouter⟩]) =
      chain (rs.length + 1) := by
  have hlink := chain_append_link (map_linkOf_mapIdx spacing rs)
  rw [Assembly.link_eq_edgesTo, ← List.getLast?_map] at hlink
  rw [chained_concat, h, Option.or_none, ← hlink]
  rfl

theorem chained_mapIdx (spacing : Int) (rs : List Resolution) :
    chained none ((rs.mapIdx (resolvedNode spacing)).map linkOf) = chain rs.length := by
  -- The ids count from the start, so that the induction takes the last module off.
  induction rs using List.reverseRecOn with
  | nil => rfl
  | append_singleton rs r ih =>
    rw [List.mapIdx_append, List.map_append, List.mapIdx_singleton, List.map_singleton,
      Nat.zero_add, List.length_append, List.length_singleton]
    exact chained_mapIdx_concat ih false

theorem chained_nodesOf : chained none ((nodesOf t catalog e rs).map linkOf) =
    chain (nodesOf t catalog e rs).length := by
  unfold nodesOf
  split
  . rw [List.append_nil, chained_mapIdx, List.length_mapIdx]
  . rw [List.map_append, List.map_singleton, List.length_append, List.length_singleton,
      List.length_mapIdx]
    exact chained_mapIdx_concat (chained_mapIdx t.layoutSpacing rs) true

theorem routes_of_mem_mapIdx {spacing : Int} {n : Node}
    (h : n ∈ rs.mapIdx (resolvedNode spacing)) : n.routes = none := by
  obtain ⟨i, hi, rfl⟩ := List.mem_mapIdx.1 h
  rfl

/-- A router has no module behind it. -/
theorem countP_dropLast_nodesOf : (nodesOf t catalog e rs).dropLast.countP (·.isRouter) = 0 := by
  rw [List.countP_eq_zero]
  intro n hn
  have hresolved : n ∈ rs.mapIdx (resolvedNode t.layoutSpacing) := by
    unfold nodesOf at hn
    split at hn
    . rw [List.append_nil] at hn
      exact (List.dropLast_sublist _).subset hn
    . rwa [List.dropLast_concat] at hn
  rw [Node.isRouter, routes_of_mem_mapIdx hresolved]
  simp

theorem filterMap_routes_nodesOf : (nodesOf t catalog e rs).filterMap Node.routes =
    if e.conditions.isEmpty then [] else [routesOf t e] := by
  have hnone : (rs.mapIdx (resolvedNode t.layoutSpacing)).filterMap Node.routes = [] := by
    rw [List.filterMap_eq_nil_iff]
    exact fun n hn => routes_of_mem_mapIdx hn
  unfold nodesOf
  rw [List.filterMap_append, hnone, List.nil_append]
  split <;> rfl

theorem isTyped_nodesOf : IsTyped (nodesOf t catalog e rs) := by
  intro n hn
  obtain ⟨k, r, _, rfl⟩ | rfl := exists_of_mem_nodesOf hn
  . exact ⟨_, rfl⟩
  . exact ⟨_, rfl⟩

theorem isChained_blueprintOf (hrs : rs.isEmpty = false) (description : String) (name : Json) :
    IsChained (blueprintOf t catalog description name e rs) where
  nodes_ne_nil := nodesOf_ne_nil hrs
  nodup := nodup_ids_nodesOf t catalog e rs
  connections := chained_nodesOf.symm

end Chain

structure Summarizes (c : Compilation) (r : Report) : Prop where
  chains : r.chains = 1
  connections : r.connections + 1 = r.modules
  routes : r.routes = c.extraction.conditions.length

theorem exists_summary_of_compileText {t : Tuning} {catalog : Catalog} {sleepSeconds name : Json}
    {description : String} {c : Compilation}
    (hc : (compileText t catalog sleepSeconds description name).result = .ok c) (id : String)
    (fallbacks : List Fallback) (catalogVersion runtimeMs : Json) :
    ∃ r, c.blueprint.report id fallbacks catalogVersion runtimeMs = .ok r ∧ c.Summarizes r := by
  obtain ⟨-, hblank, hresolutions, hblueprint⟩ := eq_of_compileText hc
  have hrs : c.resolutions.isEmpty = false := by
    rw [hresolutions]
    exact isEmpty_resolve hblank catalog sleepSeconds
  have hnodes : c.blueprint.nodes = nodesOf t catalog c.extraction c.resolutions := by
    rw [hblueprint]
    rfl
  have hchained : IsChained c.blueprint := by
    rw [hblueprint]
    exact isChained_blueprintOf hrs description name
  have htyped : IsTyped c.blueprint.nodes := by
    rw [hnodes]
    exact isTyped_nodesOf
  obtain ⟨r, hr, hcounts⟩ := Blueprint.exists_report htyped id fallbacks catalogVersion runtimeMs
  have hchains : r.chains = 1 := by
    rw [hcounts.chains, hchained.length_chainHeads, hnodes, countP_dropLast_nodesOf]
  refine ⟨r, hr, hchains, ?_, ?_⟩
  . have hparts := hchained.length_connections
    rwa [← hcounts.chains, hchains, ← hcounts.connections, ← hcounts.modules] at hparts
  . rw [hcounts.routes, hnodes, filterMap_routes_nodesOf]
    cases hconditions : c.extraction.conditions with
    | nil => rfl
    | cons condition conditions => simp [routesOf, Route.ofConditions, hconditions]

open Assembly (Operation start)

/-- The report on a blueprint says what it was built from, and that a compiled one is one chain. -/
theorem report_summarizes :
    (∀ (spacing name description : Json) (ops : List Operation), (∀ op ∈ ops, op.IsReportable) →
      ∀ b, ((start spacing name description).run ops).1.build.2 = .ok b →
      ∀ id fallbacks catalogVersion runtimeMs, ∃ r,
        b.report id fallbacks catalogVersion runtimeMs = .ok r ∧
        Assembly.Summarizes b ((start spacing name description).run ops).2 r) ∧
    ∀ (t : Tuning) (catalog : Catalog) (sleepSeconds description name : Json) (c : Compilation),
      (compile t catalog sleepSeconds description name).result = .ok c →
      ∀ id fallbacks catalogVersion runtimeMs, ∃ r,
        c.blueprint.report id fallbacks catalogVersion runtimeMs = .ok r ∧ c.Summarizes r := by
  constructor
  . intro spacing name description ops hops b hb
    exact Assembly.exists_summary hops hb
  . intro t catalog sleepSeconds description name c hc
    obtain ⟨s, hs⟩ := exists_compileText hc
    exact exists_summary_of_compileText hs

def routedOperations : List Operation :=
  let route : Route := ⟨1, "Route 1", ⟨"Route 1", "total", "equal", "5"⟩⟩
  [.appendModule "m" 1 .null .null, .appendRouter (.ok [route]) 1, .appendModule "m.n" 1 .null .null,
    .appendAuxiliary "schedule" (.object [("interval", 5)]), .appendRouter (.ok [route, route]) 1]

/-- Behind the first router a second chain starts, and behind the last one there is none. -/
theorem report_summarizes_of_routedOperations :
    (∀ op ∈ routedOperations, op.IsReportable) ∧
    (∃ b r, ((start 300 "a" "b").run routedOperations).1.build.2 = .ok b ∧
      b.report "-" [] .null .null = .ok r ∧ r.chains = 2 ∧
      Assembly.Summarizes b ((start 300 "a" "b").run routedOperations).2 r) ∧
    ∃ c r, (compile {} ⟨[], "1"⟩ 5 mailExample .null).result = .ok c ∧
      c.blueprint.report "-" [] .null .null = .ok r ∧ c.Summarizes r := by
  have hops : ∀ op ∈ routedOperations, op.IsReportable := by
    simp [routedOperations, Operation.IsReportable]
  have hcount : ((start 300 "a" "b").run routedOperations).1.build.2.toOption.map
      (fun b => b.nodes.dropLast.countP (·.isRouter)) = some 1 := by
    decide +kernel
  have hcompiled : (compile {} ⟨[], "1"⟩ 5 mailExample .null).result.toOption.isSome := by
    decide +kernel
  refine ⟨hops, ?_, ?_⟩
  . cases hb : ((start 300 "a" "b").run routedOperations).1.build.2 with
    | error e =>
      rw [hb] at hcount
      cases hcount
    | ok b =>
      rw [hb] at hcount
      have hrouters : b.nodes.dropLast.countP (·.isRouter) = 1 := Option.some.inj hcount
      obtain ⟨r, hr, hsummary⟩ :=
        report_summarizes.1 300 "a" "b" routedOperations hops b hb "-" [] .null .null
      refine ⟨b, r, rfl, hr, ?_, hsummary⟩
      rw [hsummary.chains, hrouters]
  . cases hc : (compile {} ⟨[], "1"⟩ 5 mailExample .null).result with
    | error f =>
      rw [hc] at hcompiled
      cases hcompiled
    | ok c =>
      obtain ⟨r, hr, hsummary⟩ :=
        report_summarizes.2 {} ⟨[], "1"⟩ 5 mailExample .null c hc "-" [] .null .null
      exact ⟨c, r, rfl, hr, hsummary⟩

end Automation.Compilation
