import Mathlib.Algebra.GroupWithZero.Nat
import Automation.Proofs.Blueprint.Report

/-!
This module contains what the numbers in the report on a blueprint count.
-/

namespace Automation

theorem sum_countName (counts : List (Text × Nat)) (name : Text) :
    ((countName counts name).map (·.2)).sum = (counts.map (·.2)).sum + 1 := by
  induction counts with
  | nil => rfl
  | cons c counts ih =>
    rw [countName]
    split
    . simp only [List.map_cons, List.sum_cons]
      omega
    . simp only [List.map_cons, List.sum_cons, ih]
      omega

theorem sum_foldl_countName (services : List Text) (counts : List (Text × Nat)) :
    ((services.foldl countName counts).map (·.2)).sum =
      (counts.map (·.2)).sum + services.length := by
  induction services generalizing counts with
  | nil => rfl
  | cons s services ih =>
    rw [List.foldl_cons, ih, sum_countName, List.length_cons]
    omega

namespace Blueprint

structure Counts (b : Blueprint) (r : Report) : Prop where
  modules : r.modules = b.nodes.length
  services : (r.modulesByService.map (·.2)).sum = b.nodes.length
  connections : r.connections = b.connections.length
  routers : r.routers = (b.nodes.filterMap Node.routes).length
  routes : r.routes = ((b.nodes.filterMap Node.routes).map List.length).sum
  chains : r.chains = b.chainHeads.length
  isScheduled : r.isScheduled = true ↔ b.scheduling ≠ .null

variable {b : Blueprint}

theorem exists_services (h : ∀ n ∈ b.nodes, ∃ t, n.moduleType = .string t) :
    ∃ services, b.services = .ok services ∧ services.length = b.nodes.length := by
  have hservice : ∀ n ∈ b.nodes, ∃ service,
      (do return servicePart (← n.moduleType.asText "split") : Except Fault Text) = .ok service := by
    intro n hn
    obtain ⟨t, ht⟩ := h n hn
    rw [ht]
    exact ⟨_, rfl⟩
  obtain ⟨services, hservices⟩ := exists_mapM hservice
  exact ⟨services, hservices, (mapM_eq_ok_iff.1 hservices).length_eq.symm⟩

theorem length_filter_isRouter (nodes : List Node) :
    (nodes.filter (·.isRouter)).length = (nodes.filterMap Node.routes).length := by
  rw [List.length_filterMap_eq_countP, List.countP_eq_length_filter]
  rfl

theorem length_flatMap_routes (nodes : List Node) :
    (nodes.flatMap fun n => n.routes.getD []).length =
      ((nodes.filterMap Node.routes).map List.length).sum := by
  induction nodes with
  | nil => rfl
  | cons n nodes ih =>
    rw [List.flatMap_cons, List.length_append, ih, List.filterMap_cons]
    cases n.routes <;> simp

theorem exists_report (h : ∀ n ∈ b.nodes, ∃ t, n.moduleType = .string t) (id : String)
    (fallbacks : List Fallback) (catalogVersion runtimeMs : Json) :
    ∃ r, b.report id fallbacks catalogVersion runtimeMs = .ok r ∧ b.Counts r := by
  obtain ⟨services, hservices, hlength⟩ := exists_services h
  unfold report
  rw [hservices]
  exact ⟨_, rfl, {
    modules := rfl
    services := by
      rw [← hlength, sum_foldl_countName]
      simp
    connections := rfl
    routers := length_filter_isRouter b.nodes
    routes := length_flatMap_routes b.nodes
    chains := rfl
    isScheduled := bne_iff_ne }⟩

end Blueprint

end Automation
