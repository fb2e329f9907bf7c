import Automation.Proofs.Compilation.Follows
import Automation.Proofs.Route.Announced

/-!
This module contains what becomes of the conditions that an ASCII description announces with "when":
of each of them the compiled router has a route, which tests the status unless the condition has
"greater" or "less" within it.
-/

namespace Automation.Compilation

open Text Description Route

theorem conditions_of_extract {description : String} {e : Extraction}
    (hextract : extract description = .ok e) (hblank : e.isBlank = false) :
    e.conditions = conditions (normalize description) := by
  unfold extract at hextract
  split at hextract
  . rw [← Except.ok.inj hextract] at hblank
    cases hblank
  . obtain ⟨schedule, -, he⟩ := bind_eq_ok.1 hextract
    rw [← Except.ok.inj he]

/-- What a compiled router tests for each condition that is announced with "when". -/
structure RoutesWhens (description : String) (source : Text) (c : Compilation)
    (ifs whens checks : List Occurrence) : Prop where
  areIfs : ∀ os, ifPattern.AreAll (normal description.toList) os ↔ os = ifs
  areWhens : ∀ os, whenPattern.AreAll (normal description.toList) os ↔ os = whens
  areChecks : ∀ os, checkPattern.AreAll (normal description.toList) os ↔ os = checks
  texts : c.extraction.conditions.map (·.text) =
    (ifs ++ whens ++ checks).map fun o => String.ofList o.span
  routes : ∀ (j : Nat) (o : Occurrence), whens[j]? = some o →
    ∃ (n : Node) (routes : List Route) (route : Route),
      c.blueprint.nodes.getLast? = some n ∧ n.routes = some routes ∧
      routes[ifs.length + j]? = some route ∧ TestsSpan source o.span route.filter

theorem getElem?_between (xs : List α) {ys : List α} (zs : List α) {j : Nat} {y : α}
    (hj : ys[j]? = some y) : (xs ++ ys ++ zs)[xs.length + j]? = some y := by
  have hlt := (List.getElem?_eq_some_iff.1 hj).1
  rw [List.append_assoc, List.getElem?_append_right (Nat.le_add_right ..),
    Nat.add_sub_cancel_left, List.getElem?_append_left hlt, hj]

def announcedExample : String :=
  "When total is 5, when size GREATER than 3 is 5"

end Automation.Compilation
