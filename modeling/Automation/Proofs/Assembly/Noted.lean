import Automation.Proofs.Assembly.Beside
import Automation.Proofs.Json.Basic
import Automation.Proofs.Json.Coercion

/-!
This module contains what the notes of an assembly hold, told by what was noted, and that nothing
depends on how notes and drawing follow one another. Of names and schedules the last one holds,
later settings go before earlier ones, and variables and data stores stand in the order in which
they came.
-/

namespace Automation.Assembly

namespace Performed

def auxiliary? (kind : Text) : Performed → Option Json
  | ⟨.appendAuxiliary (.string k) data, .ok _⟩ => if k = kind then some data else none
  | _ => none

def title? : Performed → Option (Json × Json)
  | ⟨.setMetadata name description, .ok _⟩ => some (name, description)
  | _ => none

@[simp]
theorem auxiliary?_error (kind : Text) (op : Operation) (e : Refusal) :
    auxiliary? kind ⟨op, .error e⟩ = none := by
  cases op with
  | appendAuxiliary k data => cases k <;> rfl
  | _ => rfl

@[simp]
theorem title?_error (op : Operation) (e : Refusal) : title? ⟨op, .error e⟩ = none := by
  cases op <;> rfl

@[simp]
theorem auxiliary?_of_draws {op : Operation} (h : op.draws = true) (kind : Text)
    (answer : Except Refusal Answer) : auxiliary? kind ⟨op, answer⟩ = none := by
  cases op <;> first | rfl | cases h

@[simp]
theorem title?_of_draws {op : Operation} (h : op.draws = true) (answer : Except Refusal Answer) :
    title? ⟨op, answer⟩ = none := by
  cases op <;> first | rfl | cases h

end Performed

def variableOf (data : Json) : Json :=
  .object [("name", data.fields.getD "name" .null), ("value", data.fields.getD "value" .null)]

def scheduleOf (data : Json) : Json :=
  match data.field "interval" >>= Json.toInteger with
  | .ok interval => .object [("interval", .int interval)]
  | .error _ => .null

def dataStoreOf (data : Json) : Json :=
  .object (data.toFields.toOption.getD [])

def addSettings (old data : Json) : Json :=
  .object (old.fields.merge data.fields)

theorem foldl_addSettings {datas : List Json} (h : datas ≠ []) (old : Json) :
    datas.foldl addSettings old = .object (old.fields.merge (datas.flatMap Json.fields)) := by
  induction datas generalizing old with
  | nil => exact absurd rfl h
  | cons data datas ih =>
    rw [List.foldl_cons, List.flatMap_cons, Fields.merge_append]
    by_cases hnil : datas = []
    . rw [hnil]
      rfl
    . rw [ih hnil]
      rfl

theorem fields_of_asMapping {v : Json} {fields : Fields} (h : v.asMapping = .ok fields) :
    fields = v.fields := by
  cases v <;> cases h
  rfl

theorem fields_orElse (v : Json) : (v.orElse (.object [])).fields = v.fields := by
  unfold Json.orElse
  split
  . rename_i hvoid
    cases v with
    | object fields => rw [List.isEmpty_iff.1 hvoid]
    | _ => rfl
  . rfl

theorem mergeInto_eq_ok {old data v : Json} (h : mergeInto old data = .ok v) :
    v = addSettings old data := by
  obtain ⟨fields, hold, h⟩ := bind_eq_ok.1 h
  obtain ⟨more, hdata, h⟩ := bind_eq_ok.1 h
  cases h
  rw [fields_of_asMapping hold, fields_of_asMapping hdata, fields_orElse]
  rfl

theorem variableOf_eq {data name : Json} {fields : Fields} (hname : data.field "name" = .ok name)
    (hfields : data.asObject = .ok fields) :
    .object [("name", name), ("value", fields.getD "value" .null)] = variableOf data := by
  obtain ⟨fs, rfl, hget⟩ := Json.field_eq_ok_iff.1 hname
  cases hfields
  simp [variableOf, Json.fields, Fields.getD, hget]

section Noted

structure Noted (a : Assembly) (h : List Performed) (b : Assembly) : Prop where
  title : (b.name, b.description) =
    (h.filterMap Performed.title?).getLastD (a.name, a.description)
  variableDefs : b.variableDefs =
    a.variableDefs ++ (h.filterMap (Performed.auxiliary? "variable")).map variableOf
  dataStores : b.dataStores =
    a.dataStores ++ (h.filterMap (Performed.auxiliary? "data_store")).map dataStoreOf
  scheduling : b.scheduling =
    ((h.filterMap (Performed.auxiliary? "schedule")).map scheduleOf).getLastD a.scheduling
  settings : b.settings =
    (h.filterMap (Performed.auxiliary? "settings")).foldl addSettings a.settings

variable {a b c : Assembly} {h h' : List Performed}

theorem getLastD_append {α : Type} (xs ys : List α) (x : α) :
    (xs ++ ys).getLastD x = ys.getLastD (xs.getLastD x) := by
  simp [List.getLastD_eq_getLast?, List.getLast?_append]

theorem Noted.refl (a : Assembly) : Noted a [] a where
  title := rfl
  variableDefs := by simp
  dataStores := by simp
  scheduling := rfl
  settings := rfl

theorem Noted.trans (hab : Noted a h b) (hbc : Noted b h' c) : Noted a (h ++ h') c where
  title := by rw [List.filterMap_append, getLastD_append, ← hab.title, hbc.title]
  variableDefs := by
    rw [hbc.variableDefs, hab.variableDefs, List.filterMap_append, List.map_append, List.append_assoc]
  dataStores := by
    rw [hbc.dataStores, hab.dataStores, List.filterMap_append, List.map_append, List.append_assoc]
  scheduling := by
    rw [List.filterMap_append, List.map_append, getLastD_append, ← hab.scheduling, hbc.scheduling]
  settings := by rw [List.filterMap_append, List.foldl_append, ← hab.settings, hbc.settings]

theorem Noted.refused (op : Operation) (a : Assembly) (e : Refusal) :
    Noted a [⟨op, .error e⟩] a where
  title := by simp
  variableDefs := by simp
  dataStores := by simp
  scheduling := by simp
  settings := by simp

theorem noted_of_draws (ha : a.stage.isFinal = false) {op : Operation} (hop : op.draws = true) :
    Noted a [⟨op, (op.apply a).2⟩] (op.apply a).1 := by
  -- The same graph is drawn beside the notes, which then stay as they are.
  have hframe := apply_beside_of_draws ha ha hop
  rw [beside_self] at hframe
  rw [hframe]
  exact {
    title := by simp [hop, beside]
    variableDefs := by simp [hop, beside]
    dataStores := by simp [hop, beside]
    scheduling := by simp [hop, beside]
    settings := by simp [hop, beside] }

abbrev Notes (op : Operation) (a : Assembly) (s : Step Unit) : Prop :=
  Noted a [⟨op, s.2.map fun _ => .done⟩] s.1

theorem Notes.orRefuse {β : Type} {op : Operation} {r : Except Fault β} {step : β → Step Unit}
    (passed : ∀ x, r = .ok x → Notes op a (step x)) : Notes op a (a.orRefuse r step) := by
  apply orRefuse_cases (P := Notes op a)
  . intro f _
    apply Noted.refused
  . exact passed

theorem notes_addVariable (a : Assembly) (data : Json) :
    Notes (.appendAuxiliary "variable" data) a (a.addVariable data) := by
  apply Notes.orRefuse
  intro named _
  cases named with
  | false => apply Noted.refused
  | true =>
    apply Notes.orRefuse
    rintro ⟨name, fields⟩ h
    obtain ⟨name', hname, h⟩ := bind_eq_ok.1 h
    obtain ⟨fields', hfields, h⟩ := bind_eq_ok.1 h
    cases h
    dsimp only
    rw [variableOf_eq hname hfields]
    exact ⟨rfl, rfl, (List.append_nil _).symm, rfl, rfl⟩

theorem notes_setSchedule (a : Assembly) (data : Json) :
    Notes (.appendAuxiliary "schedule" data) a (a.setSchedule data) := by
  apply Notes.orRefuse
  intro interval h
  have hschedule : Json.object [("interval", .int interval)] = scheduleOf data := by
    rw [scheduleOf, h]
  rw [hschedule]
  exact ⟨rfl, (List.append_nil _).symm, (List.append_nil _).symm, rfl, rfl⟩

theorem notes_mergeSettings (a : Assembly) (data : Json) :
    Notes (.appendAuxiliary "settings" data) a (a.mergeSettings data) := by
  apply Notes.orRefuse
  intro settings h
  rw [mergeInto_eq_ok h]
  exact ⟨rfl, (List.append_nil _).symm, (List.append_nil _).symm, rfl, rfl⟩

theorem notes_addDataStore (a : Assembly) (data : Json) :
    Notes (.appendAuxiliary "data_store" data) a (a.addDataStore data) := by
  apply Notes.orRefuse
  intro fields h
  have hstore : Json.object fields = dataStoreOf data := by
    rw [dataStoreOf, h]
    rfl
  rw [hstore]
  exact ⟨rfl, (List.append_nil _).symm, rfl, rfl, rfl⟩

theorem notes_appendAuxiliary (ha : a.stage.isFinal = false) (kind data : Json) :
    Notes (.appendAuxiliary kind data) a (a.appendAuxiliary kind data) := by
  unfold appendAuxiliary
  rw [whenOpen_eq ha]
  split
  . exact notes_addVariable a data
  . exact notes_setSchedule a data
  . exact notes_mergeSettings a data
  . exact notes_addDataStore a data
  . apply Noted.refused

theorem notes_setMetadata (ha : a.stage.isFinal = false) (name description : Json) :
    Notes (.setMetadata name description) a (a.setMetadata name description) := by
  unfold setMetadata
  rw [whenOpen_eq ha]
  exact ⟨rfl, (List.append_nil _).symm, (List.append_nil _).symm, rfl, rfl⟩

theorem noted_of_notes (ha : a.stage.isFinal = false) {op : Operation} (hop : op.notes = true) :
    Noted a [⟨op, (op.apply a).2⟩] (op.apply a).1 := by
  cases op with
  | setMetadata name description => exact notes_setMetadata ha name description
  | appendAuxiliary kind data => exact notes_appendAuxiliary ha kind data
  | _ => cases hop

theorem run_noted (ha : a.stage.isFinal = false) {ops : List Operation}
    (hops : ∀ op ∈ ops, op.draws = true ∨ op.notes = true) : Noted a (a.run ops).2 (a.run ops).1 := by
  induction ops generalizing a with
  | nil => exact Noted.refl a
  | cons op ops ih =>
    rw [List.forall_mem_cons] at hops
    have hstep : Noted a [⟨op, (op.apply a).2⟩] (op.apply a).1 := hops.1.elim
      (fun hop => noted_of_draws ha hop) fun hop => noted_of_notes ha hop
    have hopen : (op.apply a).1.stage.isFinal = false := hops.1.elim
      (fun hop => isFinal_apply (Operation.ne_build_of_draws hop) ha)
      fun hop => isFinal_apply (Operation.ne_build_of_notes hop) ha
    exact hstep.trans (ih hopen hops.2)

end Noted

section Decorated

/-- All modules are the same, but for the mapper and the metadata of one that has the id. -/
def Decorated (id : Json) (nodes nodes' : List Node) : Prop :=
  nodes' = nodes ∨ ∃ before n after mapper metadata,
    nodes = before ++ n :: after ∧ Json.same (.int n.id) id = true ∧
    nodes' = before ++ { n with mapper, metadata } :: after

variable {id : Json} {n : Node} {before after : List Node}

theorem modifyNode_append_cons (hbefore : ∀ m ∈ before, Json.same (.int m.id) id = false)
    (hn : Json.same (.int n.id) id = true) (f : Node → Node) (after : List Node) :
    modifyNode id f (before ++ n :: after) = before ++ f n :: after := by
  induction before with
  | nil => simp [modifyNode, hn]
  | cons m before ih =>
    rw [List.forall_mem_cons] at hbefore
    simp [modifyNode, hbefore.1, ih hbefore.2]

theorem decorateSide_metadata (hbefore : ∀ m ∈ before, Json.same (.int m.id) id = false)
    (hn : Json.same (.int n.id) id = true) {a : Assembly} (ha : a.nodes = before ++ n :: after)
    (old data : Json) :
    ∃ metadata, (a.decorateSide id old data fun n metadata => { n with metadata }).1 =
      { a with nodes := before ++ { n with metadata } :: after } := by
  have hsame : ∃ metadata, a = { a with nodes := before ++ { n with metadata } :: after } :=
    ⟨n.metadata, by rw [← ha]⟩
  apply decorateSide_cases (P := fun s => ∃ metadata,
    s.1 = { a with nodes := before ++ { n with metadata } :: after })
  . intro _
    exact hsame
  . intro _ _ _
    exact hsame
  . intro metadata _ _
    rw [ha, modifyNode_append_cons hbefore hn]
    exact ⟨metadata, rfl⟩

theorem exists_of_node? {a : Assembly} (h : a.blueprint.node? id = some n) :
    ∃ before after, a.nodes = before ++ n :: after ∧ Json.same (.int n.id) id = true ∧
      ∀ m ∈ before, Json.same (.int m.id) id = false := by
  obtain ⟨hn, before, after, hnodes, hbefore⟩ := List.find?_eq_some_iff_append.1 h
  refine ⟨before, after, hnodes, hn, ?_⟩
  intro m hm
  simpa using hbefore m hm

theorem decorate_decorated (a : Assembly) (id mapper metadata : Json) :
    ∃ nodes, Decorated id a.nodes nodes ∧ (a.decorate id mapper metadata).1 = { a with nodes } := by
  apply decorate_steps (P := fun s => ∃ nodes, Decorated id a.nodes nodes ∧ s.1 = { a with nodes })
  . intro e _
    exact ⟨a.nodes, .inl rfl, rfl⟩
  . intro n _ hnode _
    obtain ⟨before, after, hnodes, hn, hbefore⟩ := exists_of_node? hnode
    obtain ⟨metadata', hside⟩ := decorateSide_metadata hbefore hn hnodes n.metadata metadata
    exact ⟨_, .inr ⟨before, n, after, n.mapper, metadata', hnodes, hn, rfl⟩, hside⟩
  . intro n mapper' _ hnode _
    obtain ⟨before, after, hnodes, hn, hbefore⟩ := exists_of_node? hnode
    have hmapper : (a.withMapper id mapper').nodes =
        before ++ { n with mapper := mapper' } :: after := by
      change modifyNode id (fun n => { n with mapper := mapper' }) a.nodes = _
      rw [hnodes, modifyNode_append_cons hbefore hn]
    obtain ⟨metadata', hside⟩ :=
      decorateSide_metadata (n := { n with mapper := mapper' }) hbefore hn hmapper n.metadata metadata
    exact ⟨_, .inr ⟨before, n, after, mapper', metadata', hnodes, hn, rfl⟩, hside⟩

end Decorated

theorem appendAuxiliary_frame (a : Assembly) (kind data : Json) :
    ∃ variableDefs dataStores scheduling settings stage, (a.appendAuxiliary kind data).1 =
      { a with variableDefs, dataStores, scheduling, settings, stage } := by
  apply appendAuxiliary_cases (P := fun s => ∃ variableDefs dataStores scheduling settings stage,
    s.1 = { a with variableDefs, dataStores, scheduling, settings, stage })
  . intro _
    exact ⟨_, _, _, _, _, rfl⟩
  . intro _ _ _ _ _ _
    exact ⟨_, _, _, _, _, rfl⟩

section Rearranged

/-- What has been set of a name, the later settings before the earlier ones. -/
def setting? (h : List Performed) (name : Text) : Option Json :=
  Fields.get? ((h.filterMap (Performed.auxiliary? "settings")).flatMap Json.fields).reverse name

structure Rearranged (a : Assembly) (ops : List Operation) : Prop where
  assembly : (a.run (drawnFirst ops)).1 = (a.run ops).1
  answers : (a.run (drawnFirst ops)).2 =
    (a.run ops).2.filter (·.operation.draws) ++ (a.run ops).2.filter (·.operation.notes)
  built : (a.run (drawnFirst ops)).1.build = (a.run ops).1.build

theorem rearranged {a : Assembly} (ha : a.stage.isFinal = false) {ops : List Operation}
    (hops : ∀ op ∈ ops, op.draws = true ∨ op.notes = true) : Rearranged a ops where
  assembly := by rw [run_drawnFirst ha hops]
  answers := by rw [run_drawnFirst ha hops]
  built := by rw [run_drawnFirst ha hops]

theorem Noted.get?_settings {a b : Assembly} {h : List Performed} (hnoted : Noted a h b)
    (name : Text) : Fields.get? b.settings.fields name =
      (setting? h name).or (Fields.get? a.settings.fields name) := by
  rw [hnoted.settings, setting?]
  by_cases hnone : h.filterMap (Performed.auxiliary? "settings") = []
  . rw [hnone]
    rfl
  . rw [foldl_addSettings hnone]
    exact Fields.get?_merge

/-- Drawing and notes do not depend on each other, and the notes hold what was noted. -/
theorem run_rearranged (spacing name description : Json) (ops : List Operation)
    (hops : ∀ op ∈ ops, op.draws = true ∨ op.notes = true) :
    Rearranged (start spacing name description) ops ∧
    Noted (start spacing name description) ((start spacing name description).run ops).2
      ((start spacing name description).run ops).1 ∧
    (∀ key, Fields.get? ((start spacing name description).run ops).1.settings.fields key =
      setting? ((start spacing name description).run ops).2 key) ∧
    (∀ a kind data, ∃ variableDefs dataStores scheduling settings stage,
      (appendAuxiliary a kind data).1 =
        { a with variableDefs, dataStores, scheduling, settings, stage }) ∧
    ∀ a id mapper metadata, ∃ nodes, Decorated id a.nodes nodes ∧
      (decorate a id mapper metadata).1 = { a with nodes } := by
  have hnoted := run_noted (a := start spacing name description) rfl hops
  refine ⟨rearranged rfl hops, hnoted, ?_, appendAuxiliary_frame, decorate_decorated⟩
  intro key
  rw [hnoted.get?_settings]
  exact Option.or_none

theorem run_rearranged_of_mixed :
    ∃ ops : List Operation, (∀ op ∈ ops, op.draws = true ∨ op.notes = true) ∧
      ops ≠ drawnFirst ops ∧ Rearranged (start 300 "a" "b") ops ∧
      ((start 300 "a" "b").run ops).1.settings = .object [("a", 2)] :=
  ⟨[.appendAuxiliary "settings" (.object [("a", 1)]), .appendModule "m" 1 .null .null,
    .appendAuxiliary "settings" (.object [("a", 2)]), .decorate 1 .null (.object [("x", 1)]),
    .setMetadata "c" "d", .connect 1 1 .null],
    by decide, by decide, (run_rearranged 300 "a" "b" _ (by decide)).1, by decide +kernel⟩

end Rearranged

end Automation.Assembly
