import Automation.Proofs.Assembly.RoundTrip
import Automation.Proofs.Compilation.Shape

/-!
This module contains the round trip of all blueprints that the composer makes, be they built step by
step or compiled from a description: a blueprint is read from its own document as it was.
-/

namespace Automation

namespace Compilation

theorem isReadable_filterOf (source : Text) (name condition : String) :
    (∃ t, (Route.filterOf source name condition).field = .string t) ∧
    (∃ t, (Route.filterOf source name condition).operator = .string t) ∧
    ∃ t, (Route.filterOf source name condition).value = .string t := by
  unfold Route.filterOf
  split
  . exact ⟨⟨_, rfl⟩, ⟨_, rfl⟩, ⟨_, rfl⟩⟩
  . exact ⟨⟨_, rfl⟩, ⟨_, rfl⟩, ⟨_, rfl⟩⟩

theorem isReadable_ofCondition (source : Text) (position : Nat) (condition : String) :
    (Route.ofCondition source position condition).IsReadable := by
  obtain ⟨hfield, hoperator, hvalue⟩ :=
    isReadable_filterOf source (Route.labelAt position) condition
  refine ⟨?_, hfield, hoperator, hvalue⟩
  simp [Route.ofCondition, Json.isVoid, Route.labelAt, Text.isEmpty]

theorem isReadable_nodesOf {t : Tuning} {catalog : Catalog} {e : Extraction} {rs : List Resolution}
    {n : Node} (h : n ∈ nodesOf t catalog e rs) : n.IsReadable := by
  obtain ⟨k, r, _, rfl⟩ | rfl := exists_of_mem_nodesOf h
  . simp [Node.IsReadable, resolvedNode]
  . intro route hroute
    obtain ⟨k, hk, rfl⟩ := List.mem_mapIdx.1 hroute
    apply isReadable_ofCondition

theorem isReadable_blueprintOf (t : Tuning) (catalog : Catalog) (description : String) (name : Json)
    (e : Extraction) (rs : List Resolution) :
    (blueprintOf t catalog description name e rs).IsReadable where
  nodes := by
    intro n hn
    exact isReadable_nodesOf hn
  connections := by
    intro c hc
    obtain ⟨k, _, rfl⟩ := List.mem_map.1 hc
    exact ⟨_, _, rfl, rfl⟩
  scheduling := by
    unfold blueprintOf schedulingOf
    split
    . exact .inr ⟨_, rfl⟩
    . exact .inl rfl
  settings := .inl rfl

theorem isReadable_of_compileText {t : Tuning} {catalog : Catalog} {sleepSeconds name : Json}
    {description : String} {c : Compilation}
    (hc : (compileText t catalog sleepSeconds description name).result = .ok c) :
    c.blueprint.IsReadable := by
  obtain ⟨_, _, _, hblueprint⟩ := eq_of_compileText hc
  rw [hblueprint]
  apply isReadable_blueprintOf

theorem errors_of_compiled {t : Tuning} {catalog : Catalog} {sleepSeconds name : Json}
    {description : String} {c : Compilation}
    (hc : (compileText t catalog sleepSeconds description name).result = .ok c) :
    c.blueprint.errors = .ok [] := by
  obtain ⟨-, hblank, hresolutions, hblueprint⟩ := eq_of_compileText hc
  rw [hblueprint, hresolutions]
  exact errors_blueprintOf t catalog description name _ (isEmpty_resolve hblank catalog sleepSeconds)

end Compilation

namespace Blueprint

/-- Whatever is built or compiled is read from its own document as it is. -/
theorem ofDocument_toJson_of_made :
    (∀ (spacing name description : Json) (ops : List Assembly.Operation) (b : Blueprint),
      (∀ op ∈ ops, op.IsReadable) →
      ((Assembly.start spacing name description).run ops).1.build.2 = .ok b →
      ∃ document, b.toJson = .ok document ∧ ofDocument document = .ok b) ∧
    ∀ (t : Tuning) (catalog : Catalog) (sleepSeconds name : Json) (description : String)
      (c : Compilation), (compileText t catalog sleepSeconds description name).result = .ok c →
      ∃ document, c.blueprint.toJson = .ok document ∧ ofDocument document = .ok c.blueprint := by
  constructor
  . intro spacing name description ops b hops hb
    apply ofDocument_toJson
    exact ((Assembly.start_isReadable spacing name description).run hops).build hb
  . intro t catalog sleepSeconds name description c hc
    apply ofDocument_toJson
    exact Compilation.isReadable_of_compileText hc

def mixedOperations : List Assembly.Operation := [
  .appendModule "slack.postMessage" 1 .null (.object []),
  .appendRouter (.ok [Route.ofCondition "previousModule" 1 "total is 5"]) 1,
  .connect 2 1 (.bool false),
  .appendAuxiliary "schedule" (.object [])
]

theorem ofDocument_toJson_of_mixedOperations :
    (∃ b document, ((Assembly.start 300 "a" "b").run mixedOperations).1.build.2 = .ok b ∧
      b.toJson = .ok document ∧ ofDocument document = .ok b) ∧
    ∃ c document, (compileText {} ⟨[], "1"⟩ 5 "when mail comes" .null).result = .ok c ∧
      c.blueprint.toJson = .ok document ∧ ofDocument document = .ok c.blueprint := by
  constructor
  . have hops : ∀ op ∈ mixedOperations, op.IsReadable := by
      simp only [mixedOperations, List.mem_cons, List.not_mem_nil, or_false, forall_eq_or_imp,
        forall_eq]
      refine ⟨trivial, ?_, ⟨2, 1, rfl, rfl⟩, trivial⟩
      rintro _ ⟨⟩ r hr
      rw [List.mem_singleton.1 hr]
      apply Compilation.isReadable_ofCondition
    have hsome :
        ((Assembly.start 300 "a" "b").run mixedOperations).1.build.2.toOption.isSome := by
      decide +kernel
    cases hb : ((Assembly.start 300 "a" "b").run mixedOperations).1.build.2 with
    | error r =>
      rw [hb] at hsome
      cases hsome
    | ok b =>
      obtain ⟨document, hdocument⟩ := ofDocument_toJson_of_made.1 300 "a" "b" _ b hops hb
      exact ⟨b, document, rfl, hdocument⟩
  . have hsome : (compileText {} ⟨[], "1"⟩ 5 "when mail comes" .null).result.toOption.isSome := by
      decide +kernel
    cases hc : (compileText {} ⟨[], "1"⟩ 5 "when mail comes" .null).result with
    | error f =>
      rw [hc] at hsome
      cases hsome
    | ok c =>
      obtain ⟨document, hdocument⟩ := ofDocument_toJson_of_made.2 {} ⟨[], "1"⟩ 5 .null _ c hc
      exact ⟨c, document, rfl, hdocument⟩

end Blueprint

end Automation
