import Automation.Blueprint.Placeholder
import Automation.Blueprint.Validation
import Automation.Proofs.Blueprint.RoundTrip
import Automation.Proofs.Outcome

/-!
This module contains the normal form of documents. However loosely a document is written, what is
read from it has routes with labels and connections between numbers; so the document of what was
read is read as it stands, and a second reading finds the same in it.
-/

namespace Automation.Blueprint

theorem isVoid_orElse {default : Json} (h : default.isVoid = false) (v : Json) :
    (v.orElse default).isVoid = false := by
  unfold Json.orElse
  split
  . exact h
  . rename_i hv
    rwa [Bool.not_eq_true] at hv

theorem isVoid_readLabel (position : Nat) (route : Fields) :
    (readLabel position route).isVoid = false := by
  apply isVoid_orElse
  apply isVoid_orElse
  simp [Json.isVoid, Route.labelAt, Text.isEmpty]

theorem texts_of_readFilter {label : Json} {filter : Fields} {f : RouteFilter}
    (h : readFilter label filter = .ok f) :
    (∃ t, f.field = .string t) ∧ (∃ t, f.operator = .string t) ∧ ∃ t, f.value = .string t := by
  obtain ⟨groups, _, h⟩ := bind_eq_ok.1 h
  obtain ⟨condition, _, h⟩ := bind_eq_ok.1 h
  cases h
  exact ⟨⟨_, rfl⟩, ⟨_, rfl⟩, ⟨_, rfl⟩⟩

theorem isReadable_of_readRoute {position : Nat} {v : Json} {r : Route}
    (h : readRoute position v = .ok r) : r.IsReadable := by
  obtain ⟨route, _, h⟩ := bind_eq_ok.1 h
  obtain ⟨filter, _, h⟩ := bind_eq_ok.1 h
  obtain ⟨f, hf, h⟩ := bind_eq_ok.1 h
  cases h
  obtain ⟨hfield, hoperator, hvalue⟩ := texts_of_readFilter hf
  exact ⟨isVoid_readLabel position route, hfield, hoperator, hvalue⟩

theorem isReadable_of_readRoutes {position : Nat} {vs : List Json} {rs : List Route}
    (h : readRoutes position vs = .ok rs) : ∀ r ∈ rs, r.IsReadable := by
  induction vs generalizing position rs with
  | nil =>
    cases h
    simp
  | cons v vs ih =>
    obtain ⟨r, hr, h⟩ := bind_eq_ok.1 h
    obtain ⟨rest, hrest, h⟩ := bind_eq_ok.1 h
    cases h
    rw [List.forall_mem_cons]
    exact ⟨isReadable_of_readRoute hr, ih hrest⟩

theorem isReadable_of_readNode {v : Json} {n : Node} (h : readNode v = .ok n) : n.IsReadable := by
  obtain ⟨fields, _, h⟩ := bind_eq_ok.1 h
  obtain ⟨id, _, h⟩ := bind_eq_ok.1 h
  obtain ⟨parameters, _, h⟩ := bind_eq_ok.1 h
  dsimp only at h
  split at h
  . cases h
    simp [Node.IsReadable]
  . obtain ⟨routes, hroutes, h⟩ := bind_eq_ok.1 h
    cases h
    exact isReadable_of_readRoutes hroutes
  . cases h

theorem isReadable_of_readConnection {v : Json} {c : Connection} (h : readConnection v = .ok c) :
    c.IsReadable := by
  obtain ⟨fields, _, h⟩ := bind_eq_ok.1 h
  obtain ⟨source, _, h⟩ := bind_eq_ok.1 h
  obtain ⟨target, _, h⟩ := bind_eq_ok.1 h
  cases h
  exact ⟨source, target, rfl, rfl⟩

theorem areReadable_of_ofDocument {payload : Json} {b : Blueprint} (h : ofDocument payload = .ok b) :
    (∀ n ∈ b.nodes, n.IsReadable) ∧ ∀ c ∈ b.connections, c.IsReadable := by
  obtain ⟨fields, _, h⟩ := bind_eq_ok.1 h
  obtain ⟨modules, _, h⟩ := bind_eq_ok.1 h
  obtain ⟨nodes, hnodes, h⟩ := bind_eq_ok.1 h
  obtain ⟨ends, _, h⟩ := bind_eq_ok.1 h
  obtain ⟨connections, hconnections, h⟩ := bind_eq_ok.1 h
  obtain ⟨metadata, _, h⟩ := bind_eq_ok.1 h
  obtain ⟨variableDefs, _, h⟩ := bind_eq_ok.1 h
  obtain ⟨dataStores, _, h⟩ := bind_eq_ok.1 h
  cases h
  exact ⟨forall_of_mapM (fun _ _ => isReadable_of_readNode) hnodes,
    forall_of_mapM (fun _ _ => isReadable_of_readConnection) hconnections⟩

def asWritten (v : Json) : Json :=
  match v.toFields with
  | .ok fields => .object fields
  | .error _ => v

theorem objectField_of_toFields {v : Json} {fields : Fields} (h : v.toFields = .ok fields)
    (name : String) : objectField name v = .ok [(.whole name, .object fields)] := by
  cases v with
  | null => cases h
  | _ =>
    unfold objectField
    dsimp only
    rw [h]
    rfl

theorem objectField_asWritten (name : String) (v : Json) :
    objectField name (asWritten v) = objectField name v := by
  unfold asWritten
  split
  . rename_i fields hfields
    rw [objectField_of_toFields hfields, objectField_of_toFields rfl]
  . rfl

theorem isObjectOrNull_asWritten {name : String} {v : Json} {fields : Fields}
    (h : objectField name v = .ok fields) : (asWritten v).IsObjectOrNull := by
  unfold asWritten
  split
  . exact .inr ⟨_, rfl⟩
  . rename_i f hf
    left
    cases v with
    | null => rfl
    | _ =>
      obtain ⟨more, hmore, _⟩ := bind_eq_ok.1 h
      rw [hf] at hmore
      cases hmore

def normalized (b : Blueprint) : Blueprint :=
  { b with scheduling := asWritten b.scheduling, settings := asWritten b.settings }

theorem toJson_normalized (b : Blueprint) : b.normalized.toJson = b.toJson := by
  have hscheduling := objectField_asWritten "scheduling" b.scheduling
  have hsettings := objectField_asWritten "settings" b.settings
  unfold toJson normalized
  dsimp only
  rw [hscheduling, hsettings]

theorem isReadable_normalized {payload document : Json} {b : Blueprint}
    (hread : ofDocument payload = .ok b) (hwritten : b.toJson = .ok document) :
    b.normalized.IsReadable := by
  obtain ⟨hnodes, hconnections⟩ := areReadable_of_ofDocument hread
  obtain ⟨scheduling, hscheduling, hwritten⟩ := bind_eq_ok.1 hwritten
  obtain ⟨settings, hsettings, _⟩ := bind_eq_ok.1 hwritten
  exact {
    nodes := hnodes
    connections := hconnections
    scheduling := isObjectOrNull_asWritten hscheduling
    settings := isObjectOrNull_asWritten hsettings }

/-- The document of what was read from any document is read to a blueprint with the same document,
the same errors and the same placeholders. -/
theorem rereads_of_ofDocument {payload document : Json} {b : Blueprint}
    (hread : ofDocument payload = .ok b) (hwritten : b.toJson = .ok document) :
    ∃ b', ofDocument document = .ok b' ∧ b'.toJson = .ok document ∧
      b'.errors = b.errors ∧ b'.placeholders = b.placeholders := by
  obtain ⟨document', hdocument, hreread⟩ :=
    ofDocument_toJson (isReadable_normalized hread hwritten)
  have hsame := toJson_normalized b
  rw [hdocument, hwritten, Except.ok.injEq] at hsame
  subst hsame
  exact ⟨b.normalized, hreread, hdocument, rfl, rfl⟩

/-- Pairs for objects, texts for lists, ids that occur twice, and routes with next to nothing. -/
def looseDocument : Json := .object [
  ("metadata", .object [("name", .null), ("version", "3")]),
  ("scheduling", .array [.array ["interval", "soon"], "ab"]),
  ("modules", .array [
    .object [("id", 1), ("parameters", .array ["xy"]), ("mapper", "\x7b\x7b 1.mail \x7d\x7d")],
    .object [("id", 1), ("routes", .array [
      .object [],
      .object [("label", 7), ("filter", .object [("conditions", .array [
        .array [.object [("a", .bool true), ("b", .array [1, .null])], "rest"],
        .array [1]])])]])]]),
  ("connections", .array [.object [("source", 1), ("target", 2), ("route", .bool false)]]),
  ("variables", "hi"),
  ("settings", "")
]

theorem rereads_of_looseDocument : ∃ b document b', ofDocument looseDocument = .ok b ∧
    b.toJson = .ok document ∧ ofDocument document = .ok b' ∧ b'.toJson = .ok document ∧
    b'.errors = b.errors ∧ b'.placeholders = b.placeholders := by
  have hsome : ((ofDocument looseDocument).toOption.bind fun b => b.toJson.toOption).isSome := by
    decide +kernel
  cases hread : ofDocument looseDocument with
  | error f =>
    rw [hread] at hsome
    cases hsome
  | ok b =>
    cases hwritten : b.toJson with
    | error f =>
      simp [hread, hwritten, Except.toOption] at hsome
    | ok document =>
      obtain ⟨b', hreread⟩ := rereads_of_ofDocument hread hwritten
      exact ⟨b, document, b', rfl, hwritten, hreread⟩

end Automation.Blueprint
