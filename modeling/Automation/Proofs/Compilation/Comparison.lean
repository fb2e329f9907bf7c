import Automation.Proofs.Compilation.Shape
import Automation.Proofs.Route

/-!
This module contains the blueprint of a description that is made of comparisons: a webhook, what the
actions stand for, and a router with one route for each comparison.
-/

namespace Automation.Compilation

open Description (Comparison compared extractionOf)
open Text (joinWords)

def awaiting (catalog : Catalog) : Resolution where
  moduleType := "webhook.customWebhook"
  version := catalog.versionOf "webhook.customWebhook"
  parameters := Choice.fallbackTrigger.parameters
  service := none
  isFallback := true

def comparedResolutions (catalog : Catalog) (sleepSeconds : Json) (qs : List Comparison) :
    List Resolution :=
  awaiting catalog ::
    qs.map fun q => Resolution.action catalog sleepSeconds (String.ofList (joinWords q.action))

def comparedRoute (source : Text) (position : Nat) (q : Comparison) : Route where
  id := .int position
  label := .string (.whole ("Route " ++ toString position))
  filter := {
    name := .string (.whole ("Route " ++ toString position))
    field := .string ("\x7b\x7b" ++ source ++ "." ++ String.ofList (joinWords q.field) ++ "\x7d\x7d")
    operator := .string q.operator
    value := .string (String.ofList (joinWords q.value))
  }

theorem trigger_none (catalog : Catalog) : Resolution.trigger catalog none = awaiting catalog := by
  rfl

theorem ofConditions_compared {qs : List Comparison} (h : ∀ q ∈ qs, q.IsSimple) (source : Text) :
    Route.ofConditions source (qs.map fun q => String.ofList q.condition) =
      qs.mapIdx fun i q => comparedRoute source (i + 1) q := by
  apply List.ext_getElem
  . simp [Route.ofConditions]
  . intro i h₁ h₂
    have hi : i < qs.length := by simpa using h₂
    have hfilter := Route.filterOf_condition (h qs[i] (List.getElem_mem hi)) source
    simp only [Route.ofConditions, List.getElem_mapIdx, List.getElem_map, Route.ofCondition, hfilter]
    rfl

/--
Comparisons compile to what they say: a webhook, the modules of the actions in their order, and a
router with one route for each comparison and no other.
-/
theorem compileText_compared {description : String} {qs : List Comparison} (hne : qs ≠ [])
    (h : ∀ q ∈ qs, q.IsSimple) (htext : Description.normal description.toList = compared qs)
    (t : Tuning) (catalog : Catalog) (sleepSeconds name : Json) :
    ∃ c, (compileText t catalog sleepSeconds description name).result = .ok c ∧
      c.resolutions = comparedResolutions catalog sleepSeconds qs ∧
      c.blueprint.nodes =
        (comparedResolutions catalog sleepSeconds qs).mapIdx (resolvedNode t.layoutSpacing) ++
          [routerNode t.layoutSpacing (qs.length + 1) (catalog.versionOf "flow.router")
            (qs.mapIdx fun i q => comparedRoute t.routeFieldSource (i + 1) q)] := by
  obtain ⟨schedule, hextract⟩ := Description.extract_compared hne h htext
  have hresolve : resolve catalog sleepSeconds (extractionOf qs schedule) =
      comparedResolutions catalog sleepSeconds qs := by
    rw [comparedResolutions, ← trigger_none]
    simp [resolve, extractionOf, Clause.of]
  have hroutes : routesOf t (extractionOf qs schedule) =
      qs.mapIdx fun i q => comparedRoute t.routeFieldSource (i + 1) q := by
    rw [← ofConditions_compared h]
    simp [routesOf, extractionOf, Clause.of, Function.comp_def]
  have hlength : (comparedResolutions catalog sleepSeconds qs).length = qs.length + 1 := by
    simp [comparedResolutions]
  have hconditions : (extractionOf qs schedule).conditions.isEmpty = false := by
    simpa [extractionOf] using hne
  refine ⟨_, compileText_eq hextract rfl t catalog sleepSeconds name, hresolve, ?_⟩
  dsimp only [blueprintOf]
  rw [hresolve, nodesOf, hconditions, hroutes, hlength]
  rfl

def costExample : String := "If cost is 5 then call, if x contains y then log z"

def costComparisons : List Comparison := [
  ⟨["cost".toList], "is", "equal", ["5".toList], ["call".toList]⟩,
  ⟨["x".toList], "contains", "contains", ["y".toList], ["log".toList, "z".toList]⟩
]

theorem compileText_compared_of_costExample :
    ∃ c, (compileText {} ⟨[], "1"⟩ (.int 5) costExample .null).result = .ok c ∧
      c.resolutions = comparedResolutions ⟨[], "1"⟩ (.int 5) costComparisons ∧
      c.blueprint.nodes =
        (comparedResolutions ⟨[], "1"⟩ (.int 5) costComparisons).mapIdx (resolvedNode 300) ++
          [routerNode 300 3 1 (costComparisons.mapIdx fun i q =>
            comparedRoute "previousModule" (i + 1) q)] :=
  compileText_compared (by decide) (by decide +kernel) (by decide +kernel) {} ⟨[], "1"⟩ (.int 5)
    .null

end Automation.Compilation
