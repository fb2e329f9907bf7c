import Automation.Proofs.Choice.Offered
import Automation.Proofs.Compilation.Follows

/-!
This module contains what the bundled catalog says of compiled blueprints: it has all of their
modules, of which the first and no other starts the automation.
-/

namespace Automation.Compilation

/-- Whether the first module of a compilation, and no other, is listed as one that starts it. -/
structure IsOffered (catalog : Catalog) (c : Compilation) : Prop where
  nonempty : c.blueprint.nodes ≠ []
  ids : ∀ (k : Nat) (n : Node), c.blueprint.nodes[k]? = some n → n.id = k + 1
  offered : ∀ n ∈ c.blueprint.nodes, ∃ (moduleType : Text) (version : Int),
    n.moduleType = .string moduleType ∧ n.version = .int version ∧
      catalog.Offers moduleType version (n.id = 1)

theorem kindOf?_routerType : Catalog.bundled.kindOf? Node.routerType = some (.string "flow") := by
  decide +kernel

theorem offers_resolve {sleepSeconds : Json} {e : Extraction} (hblank : e.isBlank = false) {k : Nat}
    {r : Resolution} (hr : (resolve Catalog.bundled sleepSeconds e)[k]? = some r) :
    Catalog.bundled.Offers r.moduleType r.version (k = 0) := by
  rw [resolve, hblank] at hr
  cases k with
  | zero =>
    cases hr
    rw [eq_self]
    exact (Resolution.starts_trigger _).offered
  | succ k =>
    obtain ⟨a, -, rfl⟩ := List.mem_map.1 (List.mem_of_getElem? hr)
    simpa using (Resolution.acts_action sleepSeconds a.text).offered

theorem exists_compileText {t : Tuning} {catalog : Catalog} {sleepSeconds description name : Json}
    {c : Compilation} (hc : (compile t catalog sleepSeconds description name).result = .ok c) :
    ∃ s, (compileText t catalog sleepSeconds s name).result = .ok c := by
  cases description with
  | string text =>
    cases hencoded : text.encoded with
    | ok s =>
      rw [compile, hencoded] at hc
      exact ⟨s, hc⟩
    | error f =>
      rw [compile, hencoded] at hc
      cases hc
  | _ => cases hc

theorem isOffered_of_compileText {t : Tuning} {sleepSeconds name : Json} {description : String}
    {c : Compilation}
    (hc : (compileText t Catalog.bundled sleepSeconds description name).result = .ok c) :
    c.IsOffered Catalog.bundled := by
  obtain ⟨-, hblank, hresolutions, hblueprint⟩ := eq_of_compileText hc
  have hnodes : c.blueprint.nodes = nodesOf t Catalog.bundled c.extraction c.resolutions := by
    rw [hblueprint]
    rfl
  have hresolved : c.resolutions.isEmpty = false := by
    rw [hresolutions]
    exact isEmpty_resolve hblank _ _
  refine ⟨?_, ?_, ?_⟩
  . rw [hnodes]
    exact nodesOf_ne_nil hresolved
  . intro k n hn
    rw [hnodes] at hn
    rcases getElem?_nodesOf hn with ⟨r, -, rfl⟩ | ⟨-, -, rfl⟩ <;> rfl
  . intro n hn
    obtain ⟨k, hk⟩ := List.getElem?_of_mem hn
    rw [hnodes] at hk
    have hfirst : ((k : Int) + 1 = 1) = (k = 0) := by
      rw [eq_iff_iff]
      omega
    rcases getElem?_nodesOf hk with ⟨r, hr, rfl⟩ | ⟨rfl, -, rfl⟩
    . rw [hresolutions] at hr
      refine ⟨_, _, rfl, rfl, ?_⟩
      rw [resolvedNode, hfirst]
      exact offers_resolve hblank hr
    . refine ⟨_, _, rfl, rfl, ?_⟩
      rw [routerNode, hfirst]
      apply Catalog.offers_of_kindOf? kindOf?_routerType
      simpa using hresolved

/--
The bundled catalog has a module for every clause, and so for all of every compiled blueprint, of
which the first alone starts the automation.
-/
theorem compile_offered :
    (∀ clause, Resolution.Starts clause (Resolution.trigger Catalog.bundled clause)) ∧
    (∀ sleepSeconds clause,
      Resolution.Acts clause (Resolution.action Catalog.bundled sleepSeconds clause)) ∧
    ∀ t sleepSeconds description name c,
      (compile t Catalog.bundled sleepSeconds description name).result = .ok c →
        c.IsOffered Catalog.bundled := by
  refine ⟨Resolution.starts_trigger, Resolution.acts_action, ?_⟩
  intro t sleepSeconds description name c hc
  obtain ⟨s, hs⟩ := exists_compileText hc
  exact isOffered_of_compileText hs

def routedText : Json := "when mail, wait if x then"

theorem compile_offered_of_routedText :
    ∃ c : Compilation,
      (compile {} Catalog.bundled 5 routedText .null).result = .ok c ∧
      c.IsOffered Catalog.bundled ∧
      c.blueprint.nodes.map (·.moduleType) = List.map Json.string
        ["email.watchEmails", "flow.sleep", "flow.router"] := by
  have hmodules : ((compile {} Catalog.bundled 5 routedText .null).result.toOption.map fun c =>
      c.blueprint.nodes.map (·.moduleType)) =
        some (List.map Json.string ["email.watchEmails", "flow.sleep", "flow.router"]) := by
    decide +kernel
  cases hc : (compile {} Catalog.bundled 5 routedText .null).result with
  | error f =>
    rw [hc] at hmodules
    cases hmodules
  | ok c =>
    rw [hc] at hmodules
    exact ⟨c, rfl, compile_offered.2.2 {} 5 routedText .null c hc, Option.some.inj hmodules⟩

end Automation.Compilation
