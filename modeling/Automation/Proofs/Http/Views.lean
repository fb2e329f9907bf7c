import Automation.Proofs.Compilation.Reread
import Automation.Proofs.Http.Step

/-!
This module contains what the web interface shows of the records of an archive: the summary, the
document, its file, the graph and the report of a record all say what its description compiles to,
at any time after any requests.
-/

namespace Automation.Http

open Archive (KeepsBlueprint KeepsRejection compiled digest)
open Compilation (documentOf)

namespace Application

def run (app : Application) (requests : List Request) : Archive :=
  requests.foldl (fun archive request => (app.answer archive request).1) .empty

def shownNode (order : Nat) (n : Node) : Json :=
  .object [
    ("id", .int n.id),
    ("module", n.moduleType),
    ("version", n.version),
    ("order", .int order),
    ("routes", .int (n.routes.getD []).length)
  ]

def shownEdge (c : Connection) : Json :=
  .object [("source", c.source), ("target", c.target), ("route", c.route)]

def Collide (s t : String) : Prop :=
  s ≠ t ∧ digest s = digest t

theorem eq_or_collide {s t : String} (h : digest s = digest t) : s = t ∨ Collide s t := by
  by_cases hst : s = t
  . exact .inl hst
  . exact .inr ⟨hst, h⟩

structure ShowsBlueprint (app : Application) (archive : Archive) (r : Archive.Record)
    (catalog : Catalog) (c : Compilation) (document : Json) (report : Report) : Prop where
  compiled : compiled app.tuning catalog r.description r.name = .ok c
  written : c.blueprint.toJson = .ok document
  artifact : app.answer archive (.artifact r.id) = (archive, (Response.ok document).sent)
  /-- The file is that of the document, unless there is another one of the same digest. -/
  file : ∃ f, archive.file? (digest document.sorted.lines ++ ".json") = some f ∧
    (f.text = document.sorted.lines ∨ Collide f.text document.sorted.lines)
  summary : app.answer archive (.summary r.id) = (archive, .ok (.object [
    ("id", .string r.id.text),
    ("name", c.blueprint.name),
    ("description", .string r.description),
    ("status", "Composed"),
    ("moduleCount", .int c.blueprint.nodes.length),
    ("catalogVersion", .string catalog.version),
    ("artifactRef",
      .string ("file://" ++ app.artifactDir ++ "/" ++ (digest document.sorted.lines ++ ".json"))),
    ("errors", .array []),
    ("createdAt", app.now),
    ("updatedAt", app.now)
  ]))
  graph : app.answer archive (.graph r.id) = (archive, .ok (.object [
    ("nodes", .array (c.blueprint.nodes.mapIdx shownNode)),
    ("edges", .array (c.blueprint.connections.map shownEdge))
  ]))
  told : app.answer archive (.report r.id) = (archive, (Response.ok report.toJson).sent)
  reported : report.blueprintId = r.id.text ∧ report.modules = c.blueprint.nodes.length ∧
    report.connections = c.blueprint.connections.length
  /-- The text of the file is read as the document; no text that was read has halves in pairs. -/
  reread : app.tuning.routeFieldSource.paired = app.tuning.routeFieldSource →
    Json.ofText document.sorted.lines = .ok document.sorted ∧
      document.sorted.same document = true
  /-- The document and the report go out as they are, unless routes bring a lone half into them. -/
  sent : app.tuning.routeFieldSource.isWhole = true ∨ c.extraction.conditions = [] →
    (Response.ok document).sent = .ok document ∧ (Response.ok report.toJson).sent = .ok report.toJson

structure ShowsRejection (app : Application) (archive : Archive) (r : Archive.Record)
    (catalog : Catalog) : Prop where
  compiled : compiled app.tuning catalog r.description r.name = .error (.invalid r.errors)
  errors : r.errors ≠ []
  artifact : app.answer archive (.artifact r.id) =
    (archive, .notFound "Blueprint was rejected; no artifact")
  summary : app.answer archive (.summary r.id) = (archive, .ok (.object [
    ("id", .string r.id.text),
    ("name", r.name),
    ("description", .string r.description),
    ("status", "Rejected"),
    ("moduleCount", .int 0),
    ("catalogVersion", .string catalog.version),
    ("artifactRef", .null),
    ("errors", .array (r.errors.map .string)),
    ("createdAt", app.now),
    ("updatedAt", app.now)
  ]))
  graph : app.answer archive (.graph r.id) =
    (archive, .ok (.object [("nodes", .array []), ("edges", .array [])]))
  report : app.answer archive (.report r.id) = (archive, .notFound "Report not generated")

def Shows (app : Application) (archive : Archive) (r : Archive.Record) : Prop :=
  ∃ catalog, app.catalog = .ok catalog ∧
    ((r.status = .composed ∧ ∃ c document report,
        ShowsBlueprint app archive r catalog c document report) ∨
      (r.status = .rejected ∧ ShowsRejection app archive r catalog))

variable {app : Application} {archive : Archive} {r : Archive.Record} {catalog : Catalog}
  {c : Compilation}

theorem run_induction {P : Archive → Prop} (hempty : P .empty)
    (hstep : ∀ archive request, P archive → P (app.answer archive request).1)
    (requests : List Request) : P (app.run requests) := by
  unfold run
  suffices hgo : ∀ archive : Archive, P archive →
      P (requests.foldl (fun archive request => (app.answer archive request).1) archive) by
    exact hgo .empty hempty
  induction requests with
  | nil =>
    intro archive h
    exact h
  | cons request requests ih =>
    intro archive h
    exact ih _ (hstep archive request h)

theorem run_isConsistent (hnow : app.now.isSendable = true) (requests : List Request) :
    (app.run requests).IsConsistent app.tuning app.catalog := by
  apply run_induction (P := fun archive => archive.IsConsistent app.tuning app.catalog)
  . apply Archive.empty_isConsistent
  . intro archive request h
    exact (answer_spec h hnow request).1

section

variable (h : archive.IsConsistent app.tuning app.catalog) (hr : r ∈ archive.records)
include h hr

theorem withRecord_of_mem (answer : Archive.Record → Response) :
    withRecord archive r.id answer = answer r := by
  unfold withRecord
  rw [Archive.find?_of_mem h hr]

theorem answer_summary (hplain : r.HasWholeTexts) (hnow : app.now.isSendable = true) :
    app.answer archive (.summary r.id) = (archive, .ok (app.summary r)) := by
  change (archive, (withRecord archive r.id _).sent) = _
  rw [withRecord_of_mem h hr, Response.sent_of_isSendable (isSendable_summary hplain hnow)]

theorem answer_graph {nodes edges : List Json}
    (hnodes : (archive.modulesOf r.id).map graphNode = nodes)
    (hedges : (archive.connectionsOf r.id).map graphEdge = edges)
    (hsendable : Json.areSendable nodes = true ∧ Json.areSendable edges = true) :
    app.answer archive (.graph r.id) =
      (archive, .ok (.object [("nodes", .array nodes), ("edges", .array edges)])) := by
  change (archive, (withRecord archive r.id _).sent) = _
  rw [withRecord_of_mem h hr]
  unfold graph
  rw [hnodes, hedges, Response.sent_of_isSendable]
  simp [Response.ok, Json.isSendable, Json.haveSendable, hsendable]

end

theorem routes_moduleRow (id : RecordId) (order : Nat) (n : Node) :
    (Archive.moduleRow id order n).routes =
      match n.routes with
      | some routes => .array (routes.map Route.toJson)
      | none => .null := by
  unfold Archive.moduleRow Node.toFields
  dsimp only
  rcases Blueprint.optionalField_cases "mapper" n.mapper with ⟨_, hmapper⟩ | hmapper <;>
  rcases Blueprint.optionalField_cases "metadata" n.metadata with ⟨_, hmetadata⟩ | hmetadata <;>
  cases n.routes <;>
  simp [hmapper, hmetadata, Fields.getD, Fields.get?]

theorem graphNode_moduleRow (id : RecordId) (order : Nat) (n : Node) :
    graphNode (Archive.moduleRow id order n) = shownNode order n := by
  unfold graphNode
  rw [routes_moduleRow]
  cases hroutes : n.routes with
  | none =>
    simp only [shownNode, hroutes]
    rfl
  | some routes =>
    simp only [shownNode, hroutes, List.length_map]
    rfl

theorem map_graphNode (id : RecordId) (nodes : List Node) :
    (nodes.mapIdx (Archive.moduleRow id)).map graphNode = nodes.mapIdx shownNode := by
  apply List.ext_getElem
  . simp
  . intro i h₁ h₂
    rw [List.getElem_map, List.getElem_mapIdx, List.getElem_mapIdx, graphNode_moduleRow]

theorem areSendable_mapIdx_shownNode {nodes : List Node}
    (h : ∀ n ∈ nodes, (∃ s : String, n.moduleType = .string s) ∧ ∃ v : Int, n.version = .int v) :
    Json.areSendable (nodes.mapIdx shownNode) = true := by
  rw [Json.areSendable_iff]
  intro x hx
  obtain ⟨k, hk, rfl⟩ := List.mem_mapIdx.1 hx
  obtain ⟨⟨s, hs⟩, v, hv⟩ := h _ (List.getElem_mem hk)
  unfold shownNode
  rw [hs, hv]
  rfl

theorem areSendable_map_shownEdge {connections : List Connection}
    (h : ∀ e ∈ connections, (∃ source : Int, e.source = .int source) ∧
      (∃ target : Int, e.target = .int target) ∧ e.route = .null) :
    Json.areSendable (connections.map shownEdge) = true := by
  rw [Json.areSendable_iff]
  intro x hx
  obtain ⟨e, he, rfl⟩ := List.mem_map.1 hx
  obtain ⟨⟨source, hsource⟩, ⟨target, htarget⟩, hroute⟩ := h e he
  unfold shownEdge
  rw [hsource, htarget, hroute]
  rfl

theorem showsBlueprint_of_keeps (h : archive.IsConsistent app.tuning app.catalog)
    (hnow : app.now.isSendable = true) (hr : r ∈ archive.records)
    (hkeeps : archive.KeepsBlueprint app.tuning catalog r c) :
    ∃ document report, ShowsBlueprint app archive r catalog c document report := by
  obtain ⟨report, hreport, heq⟩ := hkeeps.report
  have htypes := Compilation.moduleType_of_compileText hkeeps.compiled
  obtain ⟨report', heq', hid, hmodules, hconnections, hsendable⟩ := Blueprint.report_eq
    (fun n hn => (htypes n hn).1) r.id.text (Resolution.fallbacks c.resolutions)
    (.string catalog.version) 0
  rw [heq, Except.ok.injEq] at heq'
  subst heq'
  obtain ⟨s, hs⟩ := hkeeps.plain.name
  have htitle := hkeeps.name.symm.trans hs
  have hversion : catalog.version.isWhole = true := by
    rw [← hkeeps.catalogVersion]
    exact hkeeps.plain.catalogVersion
  have hfile : r.file = some (digest (documentOf c.blueprint).sorted.lines ++ ".json") := by
    rw [hkeeps.file, hkeeps.artifact]
    rfl
  refine ⟨documentOf c.blueprint, report, ?_⟩
  exact {
    compiled := hkeeps.compiled
    written := Compilation.toJson_of_compileText hkeeps.compiled
    artifact := by
      change (archive, (withRecord archive r.id _).sent) = _
      rw [withRecord_of_mem h hr, hkeeps.status, hkeeps.artifact]
    file := by
      obtain ⟨f, hf, hdigest⟩ := hkeeps.stored
      rw [hkeeps.artifact] at hf hdigest
      exact ⟨f, hf, eq_or_collide hdigest⟩
    summary := by
      rw [answer_summary h hr hkeeps.plain hnow]
      unfold summary artifactRef
      rw [hfile, hkeeps.name, hkeeps.status, hkeeps.moduleCount, hkeeps.catalogVersion,
        hkeeps.errors]
      rfl
    graph := by
      apply answer_graph h hr
      . rw [hkeeps.modules]
        apply map_graphNode
      . rw [hkeeps.connections, List.map_map]
        rfl
      . exact ⟨areSendable_mapIdx_shownNode htypes,
          areSendable_map_shownEdge (Compilation.connections_of_compileText hkeeps.compiled)⟩
    told := by
      change (archive, (withRecord archive r.id _).sent) = _
      rw [withRecord_of_mem h hr, hreport]
    reported := ⟨hid, hmodules, hconnections⟩
    reread := by
      intro hsource
      have hlegible := Compilation.isLegible_of_compileText hkeeps.compiled
        (Compilation.admits_all _) ⟨htitle, rfl⟩
      have hread := Json.ofText_sorted_lines_paired (Json.isLegible_mono hlegible (by decide))
        (hkeeps.artifact ▸ hkeeps.writable)
      rwa [Compilation.paired_document hkeeps.compiled hsource htitle] at hread
    sent := by
      intro hsource
      -- Without conditions the source can be taken to be any whole text.
      have hwhole : ∃ source : Text, source.isWhole = true ∧
          compiled { app.tuning with routeFieldSource := source } catalog r.description r.name =
            .ok c := by
        rcases hsource with hsource | hnone
        . exact ⟨_, hsource, hkeeps.compiled⟩
        . exact ⟨"", rfl, Compilation.compileText_of_conditions_nil hkeeps.compiled hnone ""⟩
      obtain ⟨source, hsource, hcompiled⟩ := hwhole
      have hnodes := Compilation.isTidy_nodes_of_compileText hcompiled hsource
      have htidy := Compilation.isTidy_of_compileText hcompiled hsource htitle
      refine ⟨Response.sent_of_isSendable (Json.isSendable_of_isTidy htidy), ?_⟩
      apply Response.sent_of_isSendable
      apply hsendable
      . intro n hn
        exact Json.isSendable_of_isTidy (hnodes n hn)
      . apply Compilation.isSendable_fallbacks
      . exact hversion
      . rfl }

theorem showsRejection_of_keeps (h : archive.IsConsistent app.tuning app.catalog)
    (hnow : app.now.isSendable = true) (hr : r ∈ archive.records)
    (hkeeps : archive.KeepsRejection app.tuning catalog r) :
    ShowsRejection app archive r catalog where
  compiled := hkeeps.compiled
  errors := by
    rw [Compilation.errors_of_compileText hkeeps.compiled]
    exact List.cons_ne_nil _ _
  artifact := by
    change (archive, (withRecord archive r.id _).sent) = _
    rw [withRecord_of_mem h hr, hkeeps.status]
    rfl
  summary := by
    rw [answer_summary h hr hkeeps.plain hnow]
    unfold summary artifactRef
    rw [hkeeps.file, hkeeps.status, hkeeps.moduleCount, hkeeps.catalogVersion]
    rfl
  graph := by
    apply answer_graph h hr
    . rw [hkeeps.modules]
      rfl
    . rw [hkeeps.connections]
      rfl
    . exact ⟨rfl, rfl⟩
  report := by
    change (archive, (withRecord archive r.id _).sent) = _
    rw [withRecord_of_mem h hr, hkeeps.report]
    rfl

def exampleApplication (version : Int) : Application where
  tuning := {}
  catalog := .ok {
    entries := [⟨"webhook.customWebhook", version, .null, "triggers", .null⟩]
    version := "1"
  }
  artifactDir := "artifacts"
  now := true

def exampleRequest : Request :=
  .compose (.object [("description", "hello")])

end Application

end Automation.Http
