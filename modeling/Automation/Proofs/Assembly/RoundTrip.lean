import Automation.Proofs.Assembly.Operation
import Automation.Proofs.Blueprint.RoundTrip

/-!
This module contains the round trip of built blueprints: whatever operations an assembly went
through, the blueprint that it is built to is read from its document as it is.
-/

namespace Automation.Assembly

/-- Connections must be asked for between numbers and routes must be readable; all else that a
document holds may be given in any shape. -/
def Operation.IsReadable : Operation → Prop
  | .appendRouter given _ => ∀ routes, given = .ok routes → ∀ r ∈ routes, r.IsReadable
  | .connect source target route => Connection.IsReadable { source, target, route }
  | _ => True

structure IsReadable (a : Assembly) : Prop where
  blueprint : a.blueprint.IsReadable
  validated : ∀ b, a.stage = .validated b → b.IsReadable

theorem start_isReadable (spacing name description : Json) :
    (start spacing name description).IsReadable where
  blueprint := ⟨by simp [start, blueprint], by simp [start, blueprint], .inl rfl, .inl rfl⟩
  validated := by simp [start]

theorem link_isReadable {nodes : List Node} {id : Nat} {c : Connection} (h : c ∈ link nodes id) :
    c.IsReadable := by
  unfold link at h
  split at h
  . split at h
    . simp at h
    . rw [List.mem_singleton] at h
      subst h
      exact ⟨_, _, rfl, rfl⟩
  . simp at h

theorem IsReadable.appended {a : Assembly} (h : a.IsReadable) {n : Node} (hn : n.IsReadable) :
    (a.appended n).IsReadable := by
  obtain ⟨hnodes, hconnections, hscheduling, hsettings⟩ := h.blueprint
  refine ⟨⟨?_, ?_, hscheduling, hsettings⟩, by simp [Assembly.appended]⟩
  . intro m hm
    rcases List.mem_append.1 hm with hm | hm
    . exact hnodes m hm
    . rw [List.mem_singleton.1 hm]
      exact hn
  . intro c hc
    rcases List.mem_append.1 hc with hc | hc
    . exact hconnections c hc
    . exact link_isReadable hc

theorem IsReadable.skipped {a : Assembly} (h : a.IsReadable) : a.skipped.IsReadable := by
  obtain ⟨⟨hnodes, hconnections, hscheduling, hsettings⟩, hvalidated⟩ := h
  exact ⟨⟨hnodes, hconnections, hscheduling, hsettings⟩, hvalidated⟩

theorem isReadable_of_undecorated {nodes others : List Node}
    (h : nodes.map undecorated = others.map undecorated) (hothers : ∀ n ∈ others, n.IsReadable) :
    ∀ n ∈ nodes, n.IsReadable := by
  intro n hn
  have hmem : undecorated n ∈ others.map undecorated := h ▸ List.mem_map_of_mem hn
  obtain ⟨m, hm, heq⟩ := List.mem_map.1 hmem
  have hroutes : m.routes = n.routes := congrArg (fun n => n.routes) heq
  unfold Node.IsReadable
  rw [← hroutes]
  exact hothers m hm

theorem IsReadable.apply {a : Assembly} (h : a.IsReadable) {op : Operation} (hop : op.IsReadable) :
    (op.apply a).1.IsReadable := by
  obtain ⟨hnodes, hconnections, hscheduling, hsettings⟩ := h.blueprint
  cases op with
  | setMetadata name description =>
    apply whenOpen_cases (P := fun s => (answering s _).1.IsReadable)
    . intro _
      exact h
    . intro _
      exact ⟨⟨hnodes, hconnections, hscheduling, hsettings⟩, h.validated⟩
  | appendModule moduleType version parameters mapper =>
    apply appendModule_cases (P := fun s => (answering s _).1.IsReadable)
    . exact h
    . intro _
      exact h.skipped
    . intro _ _ _ _ _ _
      exact h.appended (by simp [Node.IsReadable])
  | appendRouter given version =>
    apply appendRouterOf_cases (P := fun s => (answering s _).1.IsReadable)
    . intro _
      exact h
    . intro _
      exact h.skipped
    . intro routes _ hgiven _ _
      exact h.appended (hop routes hgiven)
  | appendAuxiliary kind data =>
    apply appendAuxiliary_cases (P := fun s => (answering s _).1.IsReadable)
    . intro _
      exact h
    . intro variableDefs dataStores scheduling settings hsch hset
      refine ⟨⟨hnodes, hconnections, ?_, ?_⟩, by simp⟩
      . rcases hsch with rfl | hobject
        . exact hscheduling
        . exact .inr hobject
      . rcases hset with rfl | hobject
        . exact hsettings
        . exact .inr hobject
  | connect source target route =>
    apply whenOpen_cases (P := fun s => (answering s _).1.IsReadable)
    . intro _
      exact h
    . intro _
      refine ⟨⟨hnodes, ?_, hscheduling, hsettings⟩, by simp [touch]⟩
      intro c hc
      rcases List.mem_append.1 hc with hc | hc
      . exact hconnections c hc
      . rw [List.mem_singleton.1 hc]
        exact hop
  | decorate id mapper metadata =>
    apply decorate_cases (P := fun s => (answering s _).1.IsReadable)
    intro nodes r hsame
    exact ⟨⟨isReadable_of_undecorated hsame hnodes, hconnections, hscheduling, hsettings⟩,
      h.validated⟩
  | validate => exact h
  | build =>
    apply build_cases (P := fun s => (answering s _).1.IsReadable)
    . intro _ _
      exact h
    . intro _ _
      exact h
    . intro _ _
      exact h
    . intro _ _
      refine ⟨⟨hnodes, hconnections, hscheduling, hsettings⟩, ?_⟩
      intro b hb
      cases hb
      exact h.blueprint
    . intro _ _ _ _
      exact ⟨⟨hnodes, hconnections, hscheduling, hsettings⟩, by simp⟩

theorem IsReadable.run {a : Assembly} (h : a.IsReadable) {ops : List Operation}
    (hops : ∀ op ∈ ops, op.IsReadable) : (a.run ops).1.IsReadable := by
  induction ops generalizing a with
  | nil => exact h
  | cons op ops ih =>
    apply ih (h.apply (hops op (List.mem_cons_self ..)))
    intro op' hop'
    exact hops op' (List.mem_cons_of_mem _ hop')

theorem IsReadable.build {a : Assembly} (h : a.IsReadable) {b : Blueprint}
    (hb : a.build.2 = .ok b) : b.IsReadable := by
  revert hb
  apply build_cases (P := fun s => s.2 = .ok b → b.IsReadable)
  . intro b' hb' heq
    cases heq
    exact h.validated b hb'
  . simp
  . simp
  . intro _ _ heq
    cases heq
    exact h.blueprint
  . simp

end Automation.Assembly
