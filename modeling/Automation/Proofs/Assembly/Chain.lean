import Automation.Proofs.Assembly.Operation

/-!
This module contains the graph that operations build up. What was performed says it in full: the
modules are the appended ones in their order, and the connections are those that link each of them
to the one before it, unless that is a router, and the given ones.
-/

namespace Automation.Assembly

structure Link where
  id : Int
  isRouter : Bool
  deriving Repr, DecidableEq

def linkOf (n : Node) : Link :=
  ⟨n.id, n.isRouter⟩

def edge (source target : Int) : Connection :=
  { source := .int source, target := .int target, route := .null }

def edgesTo (id : Int) : Option Link → List Connection
  | some ⟨last, false⟩ => [edge last id]
  | _ => []

namespace Performed

def appended? : Performed → Option Link
  | ⟨.appendModule .., .ok (.module id)⟩ => some ⟨id, false⟩
  | ⟨.appendRouter .., .ok (.module id)⟩ => some ⟨id, true⟩
  | _ => none

def connected? : Performed → Option Connection
  | ⟨.connect source target route, .ok _⟩ => some { source, target, route }
  | _ => none

def edges (last : Option Link) (p : Performed) : List Connection :=
  match p.connected?, p.appended? with
  | some c, _ => [c]
  | none, some new => edgesTo new.id last
  | none, none => []

end Performed

def edges (last : Option Link) : List Performed → List Connection
  | [] => []
  | p :: ps => p.edges last ++ edges (p.appended?.or last) ps

def IsBare (a : Assembly) : Prop :=
  a.nodes = [] ∧ a.connections = [] ∧ a.variableDefs = [] ∧ a.dataStores = [] ∧
    a.scheduling = .null ∧ a.settings = .null

structure Grows (op : Operation) (a : Assembly) (s : Step Answer) : Prop where
  nodes : s.1.nodes.map linkOf = a.nodes.map linkOf ++ (Performed.appended? ⟨op, s.2⟩).toList
  connections :
    s.1.connections = a.connections ++ Performed.edges (a.nodes.getLast?.map linkOf) ⟨op, s.2⟩
  nextId_le : a.nextId ≤ s.1.nextId
  appended : ∀ new, Performed.appended? ⟨op, s.2⟩ = some new →
    new.id = a.nextId ∧ s.1.nextId = a.nextId + 1
  kept : (op.isAppend = true → s.2.isOk = true) → Performed.appended? ⟨op, s.2⟩ = none →
    s.1.nextId = a.nextId
  bare : (a.stage = .empty → a.IsBare) → s.1.stage = .empty → s.1.IsBare

namespace Performed

@[simp]
theorem appended?_error (op : Operation) (e : Refusal) : appended? ⟨op, .error e⟩ = none := by
  cases op <;> rfl

@[simp]
theorem connected?_error (op : Operation) (e : Refusal) : connected? ⟨op, .error e⟩ = none := by
  cases op <;> rfl

theorem edges_eq_nil {p : Performed} (hc : p.connected? = none) (ha : p.appended? = none)
    (last : Option Link) : p.edges last = [] := by
  simp [edges, hc, ha]

end Performed

theorem Grows.of_frame {op : Operation} {a : Assembly} {s : Step Answer}
    (ha : Performed.appended? ⟨op, s.2⟩ = none) (hc : Performed.connected? ⟨op, s.2⟩ = none)
    (nodes : s.1.nodes.map linkOf = a.nodes.map linkOf)
    (connections : s.1.connections = a.connections) (nextId : s.1.nextId = a.nextId)
    (bare : (a.stage = .empty → a.IsBare) → s.1.stage = .empty → s.1.IsBare) : Grows op a s where
  nodes := by simp [nodes, ha]
  connections := by simp [connections, Performed.edges_eq_nil hc ha]
  nextId_le := by omega
  appended := by simp [ha]
  kept := fun _ _ => nextId
  bare := bare

theorem Grows.refused (op : Operation) (a : Assembly) (e : Refusal) : Grows op a (a, .error e) :=
  Grows.of_frame (by simp) (by simp) rfl rfl rfl id

theorem Grows.used {op : Operation} (hop : op.isAppend = true) (a : Assembly) (e : Refusal) :
    Grows op a (a.skipped, .error e) where
  nodes := by simp [skipped]
  connections := by simp [skipped, Performed.edges]
  nextId_le := by simp [skipped]
  appended := by simp
  kept := fun h => by simpa [Except.isOk, Except.toBool] using h hop
  bare := id

theorem setMetadata_grows (a : Assembly) (name description : Json) :
    Grows (.setMetadata name description) a
      (Operation.apply (.setMetadata name description) a) := by
  apply whenOpen_cases (P := fun s => Grows _ a (answering s _))
  . intro _
    apply Grows.refused
  . intro _
    exact Grows.of_frame (by rfl) (by rfl) (by rfl) (by rfl) (by rfl) id

theorem connect_grows (a : Assembly) (source target route : Json) :
    Grows (.connect source target route) a
      (Operation.apply (.connect source target route) a) := by
  apply whenOpen_cases (P := fun s => Grows _ a (answering s _))
  . intro _
    apply Grows.refused
  . intro _
    exact {
      nodes := by simp [touch, Performed.appended?]
      connections := by simp [touch, Performed.edges, Performed.connected?, Except.map]
      nextId_le := by simp [touch]
      appended := by simp [Performed.appended?]
      kept := by simp [touch]
      bare := by simp [touch] }

theorem link_eq_edgesTo (nodes : List Node) (id : Nat) :
    link nodes id = edgesTo id (nodes.getLast?.map linkOf) := by
  unfold link
  cases nodes.getLast? with
  | none => rfl
  | some last => cases h : last.isRouter <;> simp [linkOf, edgesTo, edge, h]

theorem appended_grows {op : Operation} (hop : op.isAppend = true) {a : Assembly} {n : Node}
    (happended : Performed.appended? ⟨op, .ok (.module a.nextId)⟩ = some (linkOf n))
    (hid : n.id = a.nextId) : Grows op a (a.appended n, .ok (.module a.nextId)) := by
  have hconnected : Performed.connected? ⟨op, .ok (.module a.nextId)⟩ = none := by
    cases op <;> first | rfl | simp [Operation.isAppend] at hop
  exact {
    nodes := by simp [appended, happended]
    connections := by
      simp [appended, Performed.edges, hconnected, happended, link_eq_edgesTo, linkOf, hid]
    nextId_le := by simp [appended]
    appended := by
      intro new hnew
      rw [happended, Option.some.injEq] at hnew
      exact ⟨by rw [← hnew]; exact hid, rfl⟩
    kept := by simp [happended]
    bare := by simp [appended] }

theorem appendModule_grows (a : Assembly) (moduleType version parameters mapper : Json) :
    Grows (.appendModule moduleType version parameters mapper) a
      (Operation.apply (.appendModule moduleType version parameters mapper) a) := by
  apply appendModule_cases (P := fun s => Grows _ a (answering s _))
  . apply Grows.refused
  . intro f
    exact Grows.used rfl a _
  . intro fields mapper' metadata _ _ _
    exact appended_grows rfl rfl rfl

theorem appendRouter_grows (a : Assembly) (given : Except Fault (List Route)) (version : Json) :
    Grows (.appendRouter given version) a
      (Operation.apply (.appendRouter given version) a) := by
  apply appendRouterOf_cases (P := fun s => Grows _ a (answering s _))
  . intro e
    apply Grows.refused
  . intro f
    exact Grows.used rfl a _
  . intro _ _ _ _ _
    exact appended_grows rfl rfl rfl

theorem appendAuxiliary_grows (a : Assembly) (kind data : Json) :
    Grows (.appendAuxiliary kind data) a (Operation.apply (.appendAuxiliary kind data) a) := by
  apply appendAuxiliary_cases (P := fun s => Grows _ a (answering s _))
  . intro e
    apply Grows.refused
  . intro variableDefs dataStores scheduling settings _ _
    exact Grows.of_frame (by rfl) (by rfl) (by rfl) (by rfl) (by rfl) (by simp)

theorem map_linkOf_of_undecorated {nodes others : List Node}
    (h : nodes.map undecorated = others.map undecorated) : nodes.map linkOf = others.map linkOf := by
  have := congrArg (List.map linkOf) h
  rw [List.map_map, List.map_map] at this
  exact this

theorem decorate_grows (a : Assembly) (id mapper metadata : Json) :
    Grows (.decorate id mapper metadata) a
      (Operation.apply (.decorate id mapper metadata) a) := by
  apply decorate_cases (P := fun s => Grows _ a (answering s _))
  intro nodes r hnodes
  apply Grows.of_frame (by cases r <;> rfl) (by cases r <;> rfl)
    (map_linkOf_of_undecorated hnodes) (by rfl) (by rfl)
  intro bare empty
  obtain ⟨h, rest⟩ := bare empty
  rw [h, List.map_nil, List.map_eq_nil_iff] at hnodes
  exact ⟨hnodes, rest⟩

theorem validate_grows (a : Assembly) : Grows .validate a (Operation.apply .validate a) := by
  exact Grows.of_frame (by rfl) (by rfl) (by rfl) (by rfl) (by rfl) id

theorem build_grows (a : Assembly) : Grows .build a (Operation.apply .build a) := by
  apply build_cases (P := fun s => Grows _ a (answering s _))
  . intro b _
    exact Grows.of_frame (by rfl) (by rfl) (by rfl) (by rfl) (by rfl) id
  . intro errors _
    apply Grows.refused
  . intro f _
    apply Grows.refused
  . intro _ _
    exact Grows.of_frame (by rfl) (by rfl) (by rfl) (by rfl) (by rfl) (by simp)
  . intro errors _ _ _
    exact Grows.of_frame (by rfl) (by rfl) (by rfl) (by rfl) (by rfl) (by simp)

theorem apply_grows (op : Operation) (a : Assembly) : Grows op a (op.apply a) := by
  cases op with
  | setMetadata name description => exact setMetadata_grows a name description
  | appendModule moduleType version parameters mapper =>
    exact appendModule_grows a moduleType version parameters mapper
  | appendRouter given version => exact appendRouter_grows a given version
  | appendAuxiliary kind data => exact appendAuxiliary_grows a kind data
  | connect source target route => exact connect_grows a source target route
  | decorate id mapper metadata => exact decorate_grows a id mapper metadata
  | validate => exact validate_grows a
  | build => exact build_grows a

theorem getLast?_apply (op : Operation) (a : Assembly) :
    (op.apply a).1.nodes.getLast?.map linkOf =
      (Performed.appended? ⟨op, (op.apply a).2⟩).or (a.nodes.getLast?.map linkOf) := by
  rw [← List.getLast?_map, (apply_grows op a).nodes, List.getLast?_append, List.getLast?_map]
  cases Performed.appended? ⟨op, (op.apply a).2⟩ <;> rfl

theorem run_nodes (a : Assembly) (ops : List Operation) :
    (a.run ops).1.nodes.map linkOf =
      a.nodes.map linkOf ++ (a.run ops).2.filterMap Performed.appended? := by
  induction ops generalizing a with
  | nil => simp
  | cons op ops ih =>
    rw [run_cons, ih, (apply_grows op a).nodes, List.filterMap_cons, List.append_assoc]
    cases Performed.appended? ⟨op, (op.apply a).2⟩ <;> rfl

theorem run_connections (a : Assembly) (ops : List Operation) :
    (a.run ops).1.connections =
      a.connections ++ edges (a.nodes.getLast?.map linkOf) (a.run ops).2 := by
  -- The last module is all that an operation has to know of those before it.
  induction ops generalizing a with
  | nil => simp [edges]
  | cons op ops ih =>
    rw [run_cons, ih, (apply_grows op a).connections, getLast?_apply, List.append_assoc]
    rfl

structure IsCounted (a : Assembly) : Prop where
  ascending : (a.nodes.map Node.id).Pairwise (· < ·)
  positive : ∀ id ∈ a.nodes.map Node.id, 1 ≤ id
  below : ∀ id ∈ a.nodes.map Node.id, id < a.nextId
  next : 1 ≤ a.nextId

theorem map_id_eq (nodes : List Node) : nodes.map Node.id = (nodes.map linkOf).map Link.id := by
  simp [linkOf]

theorem IsCounted.apply {a : Assembly} (h : a.IsCounted) (op : Operation) :
    (op.apply a).1.IsCounted := by
  have grows := apply_grows op a
  have hids : (op.apply a).1.nodes.map Node.id = a.nodes.map Node.id ++
      (Performed.appended? ⟨op, (op.apply a).2⟩).toList.map Link.id := by
    rw [map_id_eq, grows.nodes, List.map_append, ← map_id_eq]
  have hle := grows.nextId_le
  cases hnew : Performed.appended? ⟨op, (op.apply a).2⟩ with
  | none =>
    rw [hnew, Option.toList_none, List.map_nil, List.append_nil] at hids
    exact {
      ascending := by rw [hids]; exact h.ascending
      positive := by rw [hids]; exact h.positive
      below := by
        rw [hids]
        intro id hid
        have := h.below id hid
        omega
      next := Nat.le_trans h.next hle }
  | some new =>
    obtain ⟨hid, hnext⟩ := grows.appended new hnew
    rw [hnew, Option.toList_some, List.map_singleton, hid] at hids
    have hpos := h.next
    exact {
      ascending := by
        rw [hids, List.pairwise_append]
        exact ⟨h.ascending, List.pairwise_singleton _ _, by simpa using h.below⟩
      positive := by
        rw [hids]
        intro id hmem
        rcases List.mem_append.1 hmem with hold | hnew
        . exact h.positive id hold
        . rw [List.mem_singleton.1 hnew]
          omega
      below := by
        rw [hids, hnext]
        intro id hmem
        rcases List.mem_append.1 hmem with hold | hnew
        . have := h.below id hold
          omega
        . rw [List.mem_singleton.1 hnew]
          omega
      next := by omega }

theorem start_isCounted (spacing name description : Json) :
    (start spacing name description).IsCounted := by
  constructor <;> simp [start]

def IsNumbered (a : Assembly) : Prop :=
  a.nodes.map Node.id = (List.range' 1 a.nodes.length).map (fun n : Nat => (n : Int)) ∧
    a.nextId = a.nodes.length + 1

theorem IsNumbered.apply {a : Assembly} (h : a.IsNumbered) (op : Operation)
    (hop : op.isAppend = true → (op.apply a).2.isOk = true) : (op.apply a).1.IsNumbered := by
  obtain ⟨hids, hnext⟩ := h
  have grows := apply_grows op a
  have hlength := congrArg List.length grows.nodes
  simp only [List.length_map, List.length_append] at hlength
  cases hnew : Performed.appended? ⟨op, (op.apply a).2⟩ with
  | none =>
    rw [hnew, Option.toList_none, List.length_nil, Nat.add_zero] at hlength
    constructor
    . rw [map_id_eq, grows.nodes, hnew, Option.toList_none, List.append_nil, ← map_id_eq, hids,
        hlength]
    . rw [grows.kept hop hnew, hnext, hlength]
  | some new =>
    obtain ⟨hid, hnext'⟩ := grows.appended new hnew
    rw [hnew, Option.toList_some, List.length_singleton] at hlength
    constructor
    . rw [map_id_eq, grows.nodes, hnew, Option.toList_some, List.map_append, ← map_id_eq, hids,
        hlength, List.range'_concat, List.map_append, List.map_singleton, List.map_singleton, hid,
        hnext]
      simp [Nat.add_comm]
    . omega

theorem run_isNumbered {a : Assembly} (h : a.IsNumbered) (ops : List Operation)
    (hops : ∀ p ∈ (a.run ops).2, p.operation.isAppend = true → p.answer.isOk = true) :
    (a.run ops).1.IsNumbered := by
  induction ops generalizing a with
  | nil => exact h
  | cons op ops ih =>
    rw [run_cons] at hops ⊢
    apply ih (h.apply op (hops _ (List.mem_cons_self ..)))
    intro p hp
    exact hops p (List.mem_cons_of_mem _ hp)

theorem mem_edges {last : Option Link} {h : List Performed} {c : Connection}
    (hc : c ∈ edges last h) :
    c ∈ h.filterMap Performed.connected? ∨
      ∃ m n, [m, n] <:+: last.toList ++ h.filterMap Performed.appended? ∧ m.isRouter = false ∧
        c = edge m.id n.id := by
  induction h generalizing last with
  | nil => simp [edges] at hc
  | cons p ps ih =>
    unfold edges at hc
    rcases List.mem_append.1 hc with hp | hps
    -- The connection was made by the first operation, on its own or in an appending.
    . unfold Performed.edges at hp
      split at hp
      . rename_i c' hcon
        rw [List.mem_singleton] at hp
        left
        simp [hp, hcon]
      . rename_i new hcon hnew
        right
        unfold edgesTo at hp
        split at hp
        . rename_i id
          refine ⟨⟨id, false⟩, new, ?_, rfl, List.mem_singleton.1 hp⟩
          rw [List.filterMap_cons_some hnew]
          exact ⟨[], _, rfl⟩
        . simp at hp
      . simp at hp
    . rcases ih hps with hcon | ⟨m, n, hinfix, hm, rfl⟩
      . left
        rw [List.filterMap_cons]
        split
        . exact hcon
        . exact List.mem_cons_of_mem _ hcon
      . right
        refine ⟨m, n, ?_, hm, rfl⟩
        cases hnew : p.appended? with
        | none => simpa [hnew] using hinfix
        | some new =>
          rw [hnew] at hinfix
          rw [List.filterMap_cons_some hnew]
          exact hinfix.trans (List.suffix_append _ _).isInfix

theorem eq_nextId_of_apply {op : Operation} {a : Assembly} {id : Nat}
    (h : (op.apply a).2 = .ok (.module id)) : id = a.nextId := by
  have happended : op.isAppend = true →
      ∃ isRouter, Performed.appended? ⟨op, .ok (.module id)⟩ = some ⟨id, isRouter⟩ := by
    cases op <;> simp [Operation.isAppend, Performed.appended?]
  have hop : op.isAppend = true := by
    cases op with
    | appendModule => rfl
    | appendRouter => rfl
    | validate =>
      change (Except.mapError _ a.errors).map _ = _ at h
      cases ha : a.errors with
      | ok errors =>
        rw [ha] at h
        cases h
      | error f =>
        rw [ha] at h
        cases h
    | _ =>
      simp only [Operation.apply, answering_snd, Except.map] at h
      split at h <;> simp at h
  obtain ⟨isRouter, hnew⟩ := happended hop
  have := ((apply_grows op a).appended _ (by rw [h]; exact hnew)).1
  exact Int.ofNat.inj this

theorem run_bare {a : Assembly} (h : a.stage = .empty → a.IsBare) (ops : List Operation) :
    (a.run ops).1.stage = .empty → (a.run ops).1.IsBare :=
  run_induction h (fun b op hb => (apply_grows op b).bare hb) ops

structure Chained (r : Assembly × List Performed) : Prop where
  nodes : r.1.nodes.map linkOf = r.2.filterMap Performed.appended?
  counted : r.1.IsCounted
  next : ∀ op id, (Operation.apply op r.1).2 = .ok (.module id) → id = r.1.nextId
  connections : r.1.connections = edges none r.2
  automatic : ∀ c ∈ r.1.connections, c ∈ r.2.filterMap Performed.connected? ∨
    ∃ m n, [m, n] <:+: r.1.nodes ∧ m.isRouter = false ∧ c = edge m.id n.id
  numbered : (∀ p ∈ r.2, p.operation.isAppend = true → p.answer.isOk = true) →
    r.1.nodes.map Node.id = (List.range' 1 r.1.nodes.length).map (fun n : Nat => (n : Int))
  bare : r.1.stage = .empty → r.1.IsBare

theorem run_chained (spacing name description : Json) (ops : List Operation) :
    Chained ((start spacing name description).run ops) := by
  have hnodes := run_nodes (start spacing name description) ops
  have hconnections := run_connections (start spacing name description) ops
  exact {
    nodes := hnodes
    counted := run_induction (start_isCounted spacing name description)
      (fun _ op h => h.apply op) ops
    next := fun _ _ h => eq_nextId_of_apply h
    connections := hconnections
    automatic := by
      intro c hc
      rw [hconnections] at hc
      rcases mem_edges hc with hcon | ⟨m, n, hinfix, hm, rfl⟩
      . exact .inl hcon
      . have hlinks : [m, n] <:+: ((start spacing name description).run ops).1.nodes.map linkOf := by
          rw [hnodes]
          exact hinfix
        obtain ⟨pair, hpair, heq⟩ := List.infix_map_iff.1 hlinks
        obtain ⟨m', n', rfl⟩ : ∃ m' n', pair = [m', n'] := by
          match pair, congrArg List.length heq with
          | [m', n'], _ => exact ⟨m', n', rfl⟩
        simp only [List.map_cons, List.map_nil, List.cons.injEq, and_true] at heq
        obtain ⟨rfl, rfl⟩ := heq
        exact .inr ⟨m', n', hpair, hm, rfl⟩
    numbered := fun h => (run_isNumbered (by simp [IsNumbered, start]) ops h).1
    bare := run_bare (by simp [IsBare, start]) ops }

end Automation.Assembly
