import Automation.Proofs.Assembly.Chain
import Automation.Proofs.Assembly.Settled
import Automation.Proofs.Blueprint.Diagnosis
import Automation.Proofs.Blueprint.Summary

/-!
This module contains the summary of a built blueprint, told by the operations that it was built
with. Without connections that were asked for its modules stand in chains, a new one of which starts
behind each router; the modules without a connection to them are those that start one.
-/

namespace Automation.Assembly

section Chain

def chained (last : Option Link) : List Link → List Connection
  | [] => []
  | l :: ls => edgesTo l.id last ++ chained (some l) ls

def isHead (cs : List Connection) (id : Int) : Bool :=
  !cs.any fun c => Json.same (.int id) c.target

theorem isHead_append (cs cs' : List Connection) (id : Int) :
    isHead (cs ++ cs') id = (isHead cs id && isHead cs' id) := by
  simp [isHead, List.any_append]

theorem isHead_edgesTo {id other : Int} (h : id ≠ other) (last : Option Link) :
    isHead (edgesTo other last) id = true := by
  unfold edgesTo
  split
  . simp [isHead, edge, Blueprint.same_int, h]
  . rfl

theorem isHead_edgesTo_self (id : Int) (last : Option Link) :
    isHead (edgesTo id last) id = (edgesTo id last).isEmpty := by
  unfold edgesTo
  split
  . simp [isHead, edge, Blueprint.same_int]
  . rfl

theorem isHead_chained {id : Int} {ls : List Link} (h : id ∉ ls.map Link.id) (last : Option Link) :
    isHead (chained last ls) id = true := by
  induction ls generalizing last with
  | nil => rfl
  | cons l ls ih =>
    rw [List.map_cons, List.mem_cons, not_or] at h
    rw [chained, isHead_append, isHead_edgesTo h.1, ih h.2, Bool.and_true]

def starting (l : Link) (last : Option Link) : List Int :=
  if (edgesTo l.id last).isEmpty then [l.id] else []

theorem length_edgesTo (l : Link) (last : Option Link) :
    (edgesTo l.id last).length + (starting l last).length = 1 := by
  unfold starting edgesTo
  split <;> rfl

theorem filter_isHead_cons {l : Link} {ls : List Link} (h : ((l :: ls).map Link.id).Nodup)
    (last : Option Link) :
    ((l :: ls).map Link.id).filter (isHead (chained last (l :: ls))) =
      starting l last ++ (ls.map Link.id).filter (isHead (chained (some l) ls)) := by
  rw [List.map_cons, List.nodup_cons] at h
  have hrest : (ls.map Link.id).filter (isHead (chained last (l :: ls))) =
      (ls.map Link.id).filter (isHead (chained (some l) ls)) := by
    apply List.filter_congr
    intro id hid
    rw [chained, isHead_append, isHead_edgesTo, Bool.true_and]
    rintro rfl
    exact h.1 hid
  rw [List.map_cons, List.filter_cons, hrest, chained, isHead_append, isHead_edgesTo_self,
    isHead_chained h.1, Bool.and_true, starting]
  split <;> rfl

/-- Each module either has a connection to it or starts a chain. -/
theorem length_chained {ls : List Link} (h : (ls.map Link.id).Nodup) (last : Option Link) :
    (chained last ls).length + ((ls.map Link.id).filter (isHead (chained last ls))).length =
      ls.length := by
  induction ls generalizing last with
  | nil => rfl
  | cons l ls ih =>
    have htail := ih (List.nodup_cons.1 (List.map_cons ▸ h)).2 (some l)
    have hone := length_edgesTo l last
    rw [filter_isHead_cons h, chained, List.length_append, List.length_append, List.length_cons]
    omega

/-- Behind the first module a chain starts where a router comes before. -/
theorem length_heads {l : Link} {ls : List Link} (h : ((l :: ls).map Link.id).Nodup) :
    ((ls.map Link.id).filter (isHead (chained (some l) ls))).length =
      (l :: ls).dropLast.countP (·.isRouter) := by
  -- Whether the next module starts a chain is told by the one before, which the induction moves on.
  induction ls generalizing l with
  | nil => rfl
  | cons l' ls ih =>
    have htail := (List.nodup_cons.1 (List.map_cons ▸ h)).2
    rw [filter_isHead_cons htail, List.length_append, ih htail, List.dropLast_cons_cons,
      List.countP_cons, Nat.add_comm]
    obtain ⟨id, isRouter⟩ := l
    cases isRouter <;> rfl

end Chain

structure IsChained (b : Blueprint) : Prop where
  nodes_ne_nil : b.nodes ≠ []
  nodup : b.ids.Nodup
  connections : b.connections = chained none (b.nodes.map linkOf)

section Heads

variable {b : Blueprint}

theorem IsChained.chainHeads (h : IsChained b) : b.chainHeads =
    ((b.nodes.map linkOf).map Link.id).filter (isHead (chained none (b.nodes.map linkOf))) := by
  have hids : b.ids = (b.nodes.map linkOf).map Link.id := map_id_eq b.nodes
  rw [Blueprint.chainHeads, Blueprint.eraseDups_of_nodup h.nodup, h.connections, hids]
  rfl

theorem IsChained.nodup_links (h : IsChained b) : ((b.nodes.map linkOf).map Link.id).Nodup := by
  have hnodup := h.nodup
  rwa [Blueprint.ids, map_id_eq] at hnodup

theorem IsChained.length_connections (h : IsChained b) :
    b.connections.length + b.chainHeads.length = b.nodes.length := by
  rw [h.chainHeads, h.connections, length_chained h.nodup_links, List.length_map]

theorem IsChained.length_chainHeads (h : IsChained b) :
    b.chainHeads.length = 1 + b.nodes.dropLast.countP (·.isRouter) := by
  have hnodup := h.nodup_links
  rw [h.chainHeads]
  obtain ⟨n, nodes, hnodes⟩ := List.exists_cons_of_ne_nil h.nodes_ne_nil
  have hcount : (n :: nodes).dropLast.countP (·.isRouter) =
      (linkOf n :: nodes.map linkOf).dropLast.countP (·.isRouter) := by
    rw [← List.map_cons, ← List.map_dropLast, List.countP_map]
    rfl
  rw [hnodes, List.map_cons] at hnodup ⊢
  rw [filter_isHead_cons hnodup, List.length_append, length_heads hnodup, hcount]
  rfl

end Heads

/-- What does not connect modules on its own and gives modules a text for their type. -/
def Operation.IsReportable : Operation → Prop
  | .connect .. => False
  | .appendModule moduleType .. => ∃ t, moduleType = .string t
  | _ => True

namespace Performed

def routes? : Performed → Option (List Route)
  | ⟨.appendRouter (.ok routes) _, .ok _⟩ => some routes
  | _ => none

def IsScheduling (p : Performed) : Prop :=
  p.answer.isOk = true ∧ ∃ data, p.operation = .appendAuxiliary "schedule" data

@[simp]
theorem routes?_error (op : Operation) (e : Refusal) : routes? ⟨op, .error e⟩ = none := by
  cases op with
  | appendRouter given version => cases given <;> rfl
  | _ => rfl

@[simp]
theorem not_isScheduling_error (op : Operation) (e : Refusal) :
    ¬ IsScheduling ⟨op, .error e⟩ := by
  rintro ⟨⟨⟩, _⟩

end Performed

def IsTyped (nodes : List Node) : Prop :=
  ∀ n ∈ nodes, ∃ t, n.moduleType = .string t

structure Records (op : Operation) (a : Assembly) (s : Step Answer) : Prop where
  routes : s.1.nodes.filterMap Node.routes =
    a.nodes.filterMap Node.routes ++ (Performed.routes? ⟨op, s.2⟩).toList
  typed : op.IsReportable → IsTyped a.nodes → IsTyped s.1.nodes
  scheduled : s.1.scheduling ≠ .null ↔
    a.scheduling ≠ .null ∨ Performed.IsScheduling ⟨op, s.2⟩

section Records

theorem filterMap_routes_of_undecorated {nodes others : List Node}
    (h : nodes.map undecorated = others.map undecorated) :
    nodes.filterMap Node.routes = others.filterMap Node.routes := by
  have hroutes := congrArg (List.filterMap Node.routes) h
  rwa [List.filterMap_map, List.filterMap_map] at hroutes

theorem isTyped_of_undecorated {nodes others : List Node}
    (h : nodes.map undecorated = others.map undecorated) (hothers : IsTyped others) :
    IsTyped nodes := by
  intro n hn
  have hmem : undecorated n ∈ others.map undecorated := h ▸ List.mem_map_of_mem hn
  obtain ⟨m, hm, heq⟩ := List.mem_map.1 hmem
  have htype : m.moduleType = n.moduleType := congrArg (fun n => n.moduleType) heq
  rw [← htype]
  exact hothers m hm

variable {α β : Type} {op : Operation} {a : Assembly} {s : Step Answer}

theorem Records.of_frame (hroutes : Performed.routes? ⟨op, s.2⟩ = none)
    (hschedule : ¬ Performed.IsScheduling ⟨op, s.2⟩)
    (nodes : s.1.nodes.map undecorated = a.nodes.map undecorated)
    (scheduling : s.1.scheduling = a.scheduling) : Records op a s where
  routes := by
    rw [hroutes, filterMap_routes_of_undecorated nodes]
    simp
  typed := fun _ h => isTyped_of_undecorated nodes h
  scheduled := by simp [scheduling, hschedule]

theorem Records.refused (op : Operation) (a : Assembly) (e : Refusal) :
    Records op a (a, .error e) :=
  Records.of_frame (by simp) (by simp) rfl rfl

theorem Records.used (op : Operation) (a : Assembly) (e : Refusal) :
    Records op a (a.skipped, .error e) :=
  Records.of_frame (by simp) (by simp) rfl rfl

theorem Records.appended {n : Node} {answer : Except Refusal Answer}
    (hroutes : Performed.routes? ⟨op, answer⟩ = n.routes)
    (hschedule : ¬ Performed.IsScheduling ⟨op, answer⟩)
    (htyped : op.IsReportable → ∃ t, n.moduleType = .string t) :
    Records op a (a.appended n, answer) where
  routes := by
    rw [hroutes, Assembly.appended, List.filterMap_append, List.filterMap_cons, List.filterMap_nil]
    cases n.routes <;> rfl
  typed := by
    intro hop h m hm
    rcases List.mem_append.1 hm with hm | hm
    . exact h m hm
    . rw [List.mem_singleton.1 hm]
      exact htyped hop
  scheduled := by simp [Assembly.appended, hschedule]

theorem not_isScheduling {answer : Except Refusal Answer}
    (h : ∀ data, op ≠ .appendAuxiliary "schedule" data) :
    ¬ Performed.IsScheduling ⟨op, answer⟩ := by
  rintro ⟨-, data, hop⟩
  exact h data hop

theorem Records.whenOpen {step : Assembly → Step α} {f : α → Answer}
    (h : Records op a (answering (step a) f)) : Records op a (answering (a.whenOpen step) f) := by
  apply whenOpen_cases (P := fun s => Records op a (answering s f))
  . intro _
    apply Records.refused
  . intro _
    exact h

theorem Records.orRefuse {r : Except Fault β} {step : β → Step α} {f : α → Answer}
    (h : ∀ b, Records op a (answering (step b) f)) :
    Records op a (answering (a.orRefuse r step) f) := by
  apply orRefuse_cases (P := fun s => Records op a (answering s f))
  . intro _ _
    apply Records.refused
  . intro b _
    exact h b

theorem appendAuxiliary_records (a : Assembly) (kind data : Json) :
    Records (.appendAuxiliary kind data) a (Operation.apply (.appendAuxiliary kind data) a) := by
  apply Records.whenOpen
  split
  . apply Records.orRefuse
    intro named
    cases named with
    | false => apply Records.refused
    | true =>
      apply Records.orRefuse
      intro _
      exact Records.of_frame rfl (not_isScheduling (by simp)) rfl rfl
  . apply Records.orRefuse
    intro interval
    exact {
      routes := by simp [touch, Performed.routes?]
      typed := fun _ h => h
      scheduled := by
        simp only [answering, touch, ne_eq, reduceCtorEq, not_false_eq_true, true_iff]
        exact .inr ⟨rfl, data, rfl⟩ }
  . apply Records.orRefuse
    intro _
    exact Records.of_frame rfl (not_isScheduling (by simp)) rfl rfl
  . apply Records.orRefuse
    intro _
    exact Records.of_frame rfl (not_isScheduling (by simp)) rfl rfl
  . apply Records.refused

theorem apply_records (op : Operation) (a : Assembly) : Records op a (op.apply a) := by
  cases op with
  | setMetadata name description =>
    apply Records.whenOpen
    exact Records.of_frame rfl (not_isScheduling (by simp)) rfl rfl
  | appendModule moduleType version parameters mapper =>
    apply appendModule_cases (P := fun s => Records _ a (answering s _))
    . apply Records.refused
    . intro f
      apply Records.used
    . intro _ _ _ _ _ _
      exact Records.appended rfl (not_isScheduling (by simp)) id
  | appendRouter given version =>
    apply appendRouterOf_cases (P := fun s => Records _ a (answering s _))
    . intro e
      apply Records.refused
    . intro f
      apply Records.used
    . rintro _ _ rfl _ _
      exact Records.appended rfl (not_isScheduling (by simp)) fun _ => ⟨_, rfl⟩
  | appendAuxiliary kind data => exact appendAuxiliary_records a kind data
  | connect source target route =>
    apply Records.whenOpen
    exact Records.of_frame rfl (not_isScheduling (by simp)) rfl rfl
  | decorate id mapper metadata =>
    apply decorate_cases (P := fun s => Records _ a (answering s _))
    intro nodes r hnodes
    exact Records.of_frame (by cases r <;> rfl) (not_isScheduling (by simp)) hnodes rfl
  | validate => exact Records.of_frame rfl (not_isScheduling (by simp)) rfl rfl
  | build =>
    apply build_cases (P := fun s => Records _ a (answering s _))
    . intro b _
      exact Records.of_frame rfl (not_isScheduling (by simp)) rfl rfl
    . intro errors _
      apply Records.refused
    . intro f _
      apply Records.refused
    . intro _ _
      exact Records.of_frame rfl (not_isScheduling (by simp)) rfl rfl
    . intro errors _ _ _
      exact Records.of_frame rfl (not_isScheduling (by simp)) rfl rfl

theorem run_routes (a : Assembly) (ops : List Operation) :
    (a.run ops).1.nodes.filterMap Node.routes =
      a.nodes.filterMap Node.routes ++ (a.run ops).2.filterMap Performed.routes? := by
  induction ops generalizing a with
  | nil => simp
  | cons op ops ih =>
    rw [run_cons, ih, (apply_records op a).routes, List.filterMap_cons, List.append_assoc]
    cases Performed.routes? ⟨op, (op.apply a).2⟩ <;> rfl

theorem run_scheduled (a : Assembly) (ops : List Operation) :
    (a.run ops).1.scheduling ≠ .null ↔
      a.scheduling ≠ .null ∨ ∃ p ∈ (a.run ops).2, p.IsScheduling := by
  induction ops generalizing a with
  | nil => simp
  | cons op ops ih =>
    rw [run_cons, ih, (apply_records op a).scheduled]
    simp only [List.mem_cons, exists_eq_or_imp, or_assoc]

theorem run_typed {a : Assembly} (h : IsTyped a.nodes) {ops : List Operation}
    (hops : ∀ op ∈ ops, op.IsReportable) : IsTyped (a.run ops).1.nodes := by
  induction ops generalizing a with
  | nil => exact h
  | cons op ops ih =>
    rw [List.forall_mem_cons] at hops
    exact ih ((apply_records op a).typed hops.1 h) hops.2

theorem edges_eq_chained {h : List Performed} (hnone : ∀ p ∈ h, p.connected? = none)
    (last : Option Link) : edges last h = chained last (h.filterMap Performed.appended?) := by
  induction h generalizing last with
  | nil => rfl
  | cons p ps ih =>
    rw [List.forall_mem_cons] at hnone
    rw [edges, ih hnone.2, List.filterMap_cons, Performed.edges, hnone.1]
    cases p.appended? <;> rfl

theorem connected?_of_isReportable {op : Operation} (h : op.IsReportable)
    (answer : Except Refusal Answer) :
    Performed.connected? ⟨op, answer⟩ = none := by
  cases op with
  | connect source target route => exact h.elim
  | _ => rfl

theorem run_connected?_of_isReportable (a : Assembly) {ops : List Operation}
    (hops : ∀ op ∈ ops, op.IsReportable) : ∀ p ∈ (a.run ops).2, p.connected? = none := by
  induction ops generalizing a with
  | nil => simp
  | cons op ops ih =>
    rw [List.forall_mem_cons] at hops
    rw [run_cons, List.forall_mem_cons]
    exact ⟨connected?_of_isReportable hops.1 _, ih _ hops.2⟩

end Records

structure Summarizes (b : Blueprint) (h : List Performed) (r : Report) : Prop where
  nodes : b.nodes.map linkOf = h.filterMap Performed.appended?
  routed : b.nodes.filterMap Node.routes = h.filterMap Performed.routes?
  modules : r.modules = b.nodes.length
  connections : r.connections = b.connections.length
  chains : r.chains = 1 + b.nodes.dropLast.countP (·.isRouter)
  parts : r.modules = r.connections + r.chains
  services : (r.modulesByService.map (·.2)).sum = r.modules
  routers : r.routers = (h.filterMap Performed.routes?).length
  routes : r.routes = ((h.filterMap Performed.routes?).map List.length).sum
  isScheduled : r.isScheduled = true ↔ ∃ p ∈ h, p.IsScheduling

theorem blueprint_of_build {a : Assembly} (hsound : a.IsSound) {b : Blueprint}
    (hb : a.build.2 = .ok b) : b = a.blueprint ∧ a.errors = .ok [] := by
  revert hb
  apply build_cases (P := fun s => s.2 = .ok b → b = a.blueprint ∧ a.errors = .ok [])
  . rintro b' hstage ⟨⟩
    have hsettled := hsound (.ok b) hstage
    exact ⟨hsettled.blueprint b rfl, hsettled.errors⟩
  . rintro _ _ ⟨⟩
  . rintro _ _ ⟨⟩
  . rintro _ herrors ⟨⟩
    exact ⟨rfl, herrors⟩
  . rintro _ _ _ _ ⟨⟩

theorem nodes_ne_nil_of_errors {b : Blueprint} (h : b.errors = .ok []) : b.nodes ≠ [] := by
  intro hnil
  obtain ⟨defects, hdefects, hmessages⟩ := bind_eq_ok.1 h
  obtain ⟨dangling, -, hall⟩ := bind_eq_ok.1 hdefects
  cases List.map_eq_nil_iff.1 (Except.ok.inj hmessages)
  have hnone := (List.append_eq_nil_iff.1 (List.append_eq_nil_iff.1 (Except.ok.inj hall)).1).1
  simp [hnil] at hnone

section Run

variable {spacing name description : Json} {ops : List Operation} {b : Blueprint}

theorem isChained_of_build (hops : ∀ op ∈ ops, op.IsReportable)
    (hb : ((start spacing name description).run ops).1.build.2 = .ok b) : IsChained b := by
  obtain ⟨rfl, herrors⟩ := blueprint_of_build (run_isSound spacing name description ops) hb
  have hcounted : ((start spacing name description).run ops).1.IsCounted :=
    run_induction (start_isCounted spacing name description) (fun _ op h => h.apply op) ops
  have hnone := run_connected?_of_isReportable (start spacing name description) hops
  exact {
    nodes_ne_nil := nodes_ne_nil_of_errors herrors
    nodup := hcounted.ascending.imp Int.ne_of_lt
    connections := by
      change ((start spacing name description).run ops).1.connections =
        chained none (((start spacing name description).run ops).1.nodes.map linkOf)
      rw [run_connections, run_nodes, edges_eq_chained hnone]
      rfl }

theorem exists_summary (hops : ∀ op ∈ ops, op.IsReportable)
    (hb : ((start spacing name description).run ops).1.build.2 = .ok b) (id : String)
    (fallbacks : List Fallback) (catalogVersion runtimeMs : Json) :
    ∃ r, b.report id fallbacks catalogVersion runtimeMs = .ok r ∧
      Summarizes b ((start spacing name description).run ops).2 r := by
  have hchained := isChained_of_build hops hb
  obtain ⟨rfl, -⟩ := blueprint_of_build (run_isSound spacing name description ops) hb
  have htyped := run_typed (a := start spacing name description) (by simp [start, IsTyped]) hops
  have hroutes : ((start spacing name description).run ops).1.blueprint.nodes.filterMap Node.routes =
      ((start spacing name description).run ops).2.filterMap Performed.routes? :=
    run_routes (start spacing name description) ops
  have hscheduled : ((start spacing name description).run ops).1.blueprint.scheduling ≠ .null ↔
      ∃ p ∈ ((start spacing name description).run ops).2, p.IsScheduling :=
    (run_scheduled (start spacing name description) ops).trans (by simp [start])
  obtain ⟨r, hr, hcounts⟩ := Blueprint.exists_report
    (b := ((start spacing name description).run ops).1.blueprint) htyped id fallbacks
    catalogVersion runtimeMs
  refine ⟨r, hr, {
    nodes := run_nodes (start spacing name description) ops
    routed := hroutes
    modules := hcounts.modules
    connections := hcounts.connections
    chains := by rw [hcounts.chains, hchained.length_chainHeads]
    parts := ?_
    services := by rw [hcounts.services, hcounts.modules]
    routers := by rw [hcounts.routers, hroutes]
    routes := by rw [hcounts.routes, hroutes]
    isScheduled := by rw [hcounts.isScheduled, hscheduled] }⟩
  rw [hcounts.modules, hcounts.connections, hcounts.chains, hchained.length_connections]

end Run

end Automation.Assembly
