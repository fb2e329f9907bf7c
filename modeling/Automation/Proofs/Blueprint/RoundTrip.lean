import Automation.Blueprint.Document

/-!
This module contains the round trip of blueprints through their documents: what is written is read
back as it was, provided that routes have labels and text filters and that connections end at
numbers.
-/

namespace Automation

structure Route.IsReadable (r : Route) : Prop where
  label : r.label.isVoid = false
  field : ∃ t, r.filter.field = .string t
  operator : ∃ t, r.filter.operator = .string t
  value : ∃ t, r.filter.value = .string t

def Node.IsReadable (n : Node) : Prop :=
  ∀ r ∈ n.routes.getD [], r.IsReadable

def Connection.IsReadable (c : Connection) : Prop :=
  ∃ source target : Int, c.source = .int source ∧ c.target = .int target

def Json.IsObjectOrNull (v : Json) : Prop :=
  v = .null ∨ ∃ fields, v = .object fields

namespace Blueprint

structure IsReadable (b : Blueprint) : Prop where
  nodes : ∀ n ∈ b.nodes, n.IsReadable
  connections : ∀ c ∈ b.connections, c.IsReadable
  scheduling : b.scheduling.IsObjectOrNull
  settings : b.settings.IsObjectOrNull

theorem mapM_eq_of_forall {f : Json → Except ε α} {g : α → Json} {xs : List α}
    (h : ∀ x ∈ xs, f (g x) = .ok x) : (xs.map g).mapM f = .ok xs := by
  induction xs with
  | nil => rfl
  | cons x xs ih =>
    have hxs := ih fun y hy => h y (List.mem_cons_of_mem _ hy)
    rw [List.map_cons, List.mapM_cons, h x (List.mem_cons_self ..), hxs]
    rfl

theorem orElse_eq_self {v : Json} (h : v.isVoid = false) (default : Json) :
    v.orElse default = v := by
  simp [Json.orElse, h]

@[simp]
theorem orElse_object_cons (f : Text × Json) (fields : Fields) (default : Json) :
    (Json.object (f :: fields)).orElse default = .object (f :: fields) := rfl

@[simp]
theorem orElse_array_cons (x : Json) (xs : List Json) (default : Json) :
    (Json.array (x :: xs)).orElse default = .array (x :: xs) := rfl

theorem readFilter_toJson {f : RouteFilter} (hfield : ∃ t, f.field = .string t)
    (hoperator : ∃ t, f.operator = .string t) (hvalue : ∃ t, f.value = .string t) (label : Json) :
    ∃ fields, f.toJson = .object fields ∧ readFilter label fields = .ok f := by
  obtain ⟨name, field, operator, value⟩ := f
  rcases hfield with ⟨field, rfl⟩
  rcases hoperator with ⟨operator, rfl⟩
  rcases hvalue with ⟨value, rfl⟩
  refine ⟨_, rfl, ?_⟩
  simp [readFilter, readGroups, firstCondition, Fields.getD, Fields.get?, Json.text,
    bind, Except.bind, pure, Except.pure]

theorem readRoute_toJson {r : Route} (h : r.IsReadable) (position : Nat) :
    readRoute position r.toJson = .ok r := by
  obtain ⟨id, label, filter⟩ := r
  obtain ⟨hlabel, hfield, hoperator, hvalue⟩ := h
  obtain ⟨fields, htoJson, hread⟩ := readFilter_toJson hfield hoperator hvalue label
  dsimp only at hlabel htoJson
  have hfilter : (Json.object fields).isVoid = false := by
    rw [← htoJson]
    rfl
  simp [readRoute, readLabel, Route.toJson, asObjectOr, Fields.getD, Fields.get?, htoJson,
    orElse_eq_self hlabel, orElse_eq_self hfilter, hread, bind, Except.bind, pure, Except.pure]

theorem readRoutes_toJson {rs : List Route} (h : ∀ r ∈ rs, r.IsReadable) (position : Nat) :
    readRoutes position (rs.map Route.toJson) = .ok rs := by
  induction rs generalizing position with
  | nil => rfl
  | cons r rs ih =>
    have hrs := ih (fun s hs => h s (List.mem_cons_of_mem _ hs)) (position + 1)
    rw [List.map_cons, readRoutes, readRoute_toJson (h r (List.mem_cons_self ..)), hrs]
    rfl

theorem checked_ok {α : Type} (x : α) : checked (.ok x) = .ok x := rfl

theorem optionalField_cases (name : String) (v : Json) :
    v = .null ∧ optionalField name v = [] ∨ optionalField name v = [(.whole name, v)] := by
  cases v <;> simp [optionalField]

theorem toFields_orElse (fields : Fields) :
    ((Json.object fields).orElse (.object [])).toFields = .ok fields := by
  cases fields <;> rfl

theorem readNode_toJson {n : Node} (h : n.IsReadable) : readNode n.toJson = .ok n := by
  obtain ⟨id, moduleType, version, parameters, mapper, metadata, routes⟩ := n
  rcases optionalField_cases "mapper" mapper with ⟨rfl, hmapper⟩ | hmapper <;>
  rcases optionalField_cases "metadata" metadata with ⟨rfl, hmetadata⟩ | hmetadata <;>
  cases routes with
  | none =>
    simp [readNode, Node.toJson, Node.toFields, hmapper, hmetadata, Fields.getD, Fields.get?,
      Json.asObject, checked_ok, moduleId, toFields_orElse, bind, Except.bind, pure,
      Except.pure]
  | some routes =>
    have hroutes := readRoutes_toJson h 1
    simp only [Option.getD_some] at hroutes
    simp [readNode, Node.toJson, Node.toFields, hmapper, hmetadata, Fields.getD, Fields.get?,
      Json.asObject, checked_ok, moduleId, toFields_orElse, hroutes, bind,
      Except.bind, pure, Except.pure]

theorem readConnection_toJson {c : Connection} (h : c.IsReadable) :
    readConnection c.toJson = .ok c := by
  obtain ⟨source, target, route⟩ := c
  obtain ⟨s, t, rfl, rfl⟩ := h
  rcases optionalField_cases "route" route with ⟨rfl, hroute⟩ | hroute <;>
  simp [readConnection, Connection.toJson, hroute, Fields.getD, Fields.get?, Json.asObject,
    checked_ok, moduleId, bind, Except.bind, pure, Except.pure]

theorem listField_cases (name : String) (items : List Json) :
    items = [] ∧ listField name items = [] ∨ listField name items = [(.whole name, .array items)] := by
  cases items <;> simp [listField]

theorem objectField_cases {v : Json} (h : v.IsObjectOrNull) (name : String) :
    v = .null ∧ objectField name v = .ok [] ∨ objectField name v = .ok [(.whole name, v)] := by
  rcases h with rfl | ⟨fields, rfl⟩
  . exact .inl ⟨rfl, rfl⟩
  . exact .inr rfl

theorem ofDocument_toJson {b : Blueprint} (h : b.IsReadable) :
    ∃ document, b.toJson = .ok document ∧ ofDocument document = .ok b := by
  obtain ⟨name, description, version, nodes, connections, scheduling, variableDefs, dataStores,
    settings⟩ := b
  obtain ⟨hnodes, hconnections, hscheduling, hsettings⟩ := h
  have hreadNodes := mapM_eq_of_forall fun n hn => readNode_toJson (hnodes n hn)
  have hreadConnections :=
    mapM_eq_of_forall fun c hc => readConnection_toJson (hconnections c hc)
  simp only at hreadNodes hreadConnections hscheduling hsettings
  rcases objectField_cases hscheduling "scheduling" with ⟨rfl, hscheduling⟩ | hscheduling <;>
  rcases objectField_cases hsettings "settings" with ⟨rfl, hsettings⟩ | hsettings <;>
  rcases listField_cases "variables" variableDefs with ⟨rfl, hvariables⟩ | hvariables <;>
  rcases listField_cases "dataStores" dataStores with ⟨rfl, hstores⟩ | hstores <;>
  simp [toJson, hscheduling, hsettings, hvariables, hstores, ofDocument, readList, Fields.getD,
    Fields.get?, Json.asObject, Json.asList, checked_ok, hreadNodes,
    hreadConnections, bind, Except.bind, pure, Except.pure]

end Blueprint

end Automation
