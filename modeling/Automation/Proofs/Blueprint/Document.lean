import Automation.Proofs.Blueprint.Grammar

/-!
This module contains the reading of whole documents of blueprints. A document is read just where it
is grammatical; then each module and each connection is read from the value in its place, and a
router from a module with routes.
-/

namespace Automation.Blueprint

variable {v : Json}

theorem exists_parameters_iff {fs : Fields} :
    (∃ ps, ((fs.getD "parameters" .null).orElse (.object [])).toFields = .ok ps) ↔
      ∀ p ∈ fs.get? "parameters", p.isVoid = true ∨ p.IsMapping := by
  rw [Json.exists_toFields_iff, orElse_getD_iff (P := Json.IsMapping) (.inl ⟨[], rfl⟩)]

def RoutesRead (fs : Fields) (routes : Option (List Route)) : Prop :=
  fs.get? "routes" = none ∧ routes = none ∨
    ∃ vs rs, fs.get? "routes" = some (.array vs) ∧ readRoutes 1 vs = .ok rs ∧ routes = some rs

theorem readNode_eq_ok_iff {n : Node} : readNode v = .ok n ↔ ∃ fs : Fields, v = .object fs ∧
    fs.get? "id" = some (.int n.id) ∧
    ((fs.getD "parameters" .null).orElse (.object [])).toFields = .ok n.parameters ∧
    RoutesRead fs n.routes ∧
    n.moduleType = fs.getD "module" "" ∧ n.version = fs.getD "version" 1 ∧
    n.mapper = fs.getD "mapper" .null ∧ n.metadata = fs.getD "metadata" .null := by
  constructor
  . intro h
    obtain ⟨fs, hfs, h⟩ := bind_eq_ok.1 h
    obtain ⟨id, hid, h⟩ := bind_eq_ok.1 h
    obtain ⟨parameters, hparameters, h⟩ := bind_eq_ok.1 h
    rw [checked_eq_ok_iff, asObject_eq_ok_iff] at hfs
    rw [moduleId_eq_ok_iff, getD_eq_iff (by simp)] at hid
    rw [checked_eq_ok_iff] at hparameters
    dsimp only at h
    split at h
    . rename_i hnone
      cases h
      exact ⟨fs, hfs, hid, hparameters, .inl ⟨hnone, rfl⟩, rfl, rfl, rfl, rfl⟩
    . rename_i vs hsome
      obtain ⟨routes, hroutes, ⟨⟩⟩ := bind_eq_ok.1 h
      exact ⟨fs, hfs, hid, hparameters, .inr ⟨vs, routes, hsome, hroutes, rfl⟩, rfl, rfl, rfl, rfl⟩
    . cases h
  . obtain ⟨id, moduleType, version, parameters, mapper, metadata, routes⟩ := n
    rintro ⟨fs, rfl, hid, hparameters, hroutes, rfl, rfl, rfl, rfl⟩
    rw [← getD_eq_iff (by simp), ← moduleId_eq_ok_iff] at hid
    rw [← checked_eq_ok_iff] at hparameters
    refine bind_eq_ok.2 ⟨fs, rfl, bind_eq_ok.2 ⟨id, hid, bind_eq_ok.2 ⟨parameters, hparameters, ?_⟩⟩⟩
    dsimp only
    rcases hroutes with ⟨hnone, hroutes⟩ | ⟨vs, rs, hsome, hread, hroutes⟩
    . dsimp only at hroutes
      rw [hnone, hroutes]
      rfl
    . dsimp only at hroutes
      rw [hsome, hroutes]
      exact bind_eq_ok.2 ⟨rs, hread, rfl⟩

theorem exists_routesRead_iff {fs : Fields} : (∃ routes, RoutesRead fs routes) ↔
    ∀ rs ∈ fs.get? "routes", ∃ routes, rs = .array routes ∧ ∀ r ∈ routes, IsRoute r := by
  unfold RoutesRead
  constructor
  . rintro ⟨routes, ⟨hnone, -⟩ | ⟨vs, rs, hsome, hread, -⟩⟩
    . simp [hnone]
    . intro v hv
      rw [hsome, Option.mem_some_iff] at hv
      exact ⟨vs, hv.symm, exists_readRoutes_iff.1 ⟨rs, hread⟩⟩
  . intro h
    cases hfield : fs.get? "routes" with
    | none => exact ⟨none, .inl ⟨rfl, rfl⟩⟩
    | some v =>
      obtain ⟨vs, rfl, hvs⟩ := h v hfield
      obtain ⟨rs, hread⟩ := exists_readRoutes_iff.2 hvs
      exact ⟨some rs, .inr ⟨vs, rs, rfl, hread, rfl⟩⟩

theorem exists_readNode_iff : (∃ n, readNode v = .ok n) ↔ IsModule v := by
  unfold IsModule
  simp only [readNode_eq_ok_iff, ← exists_parameters_iff, ← exists_routesRead_iff]
  constructor
  . rintro ⟨n, fs, hfs, hid, hparameters, hroutes, -⟩
    exact ⟨fs, hfs, ⟨n.id, hid⟩, ⟨n.parameters, hparameters⟩, n.routes, hroutes⟩
  . rintro ⟨fs, hfs, ⟨id, hid⟩, ⟨parameters, hparameters⟩, routes, hroutes⟩
    exact ⟨⟨id, _, _, parameters, _, _, routes⟩, fs, hfs, hid, hparameters, hroutes, rfl, rfl, rfl,
      rfl⟩

theorem readsModule_of_readNode {n : Node} (h : readNode v = .ok n) : ReadsModule v n := by
  obtain ⟨fs, hfs, hid, hparameters, hroutes, hmodule, hversion, hmapper, hmetadata⟩ :=
    readNode_eq_ok_iff.1 h
  refine ⟨fs, hfs, hid, hmodule, hversion, hmapper, hmetadata, hparameters, ?_⟩
  unfold Node.isRouter Fields.has
  rcases hroutes with ⟨hnone, hroutes⟩ | ⟨vs, rs, hsome, hread, hroutes⟩
  . simp [hnone, hroutes]
  . obtain ⟨hlength, hreads⟩ := readsRoute_of_readRoutes hread
    refine ⟨by simp [hsome, hroutes], ?_⟩
    intro ws hws
    rw [hsome, Option.some.injEq, Json.array.injEq] at hws
    subst hws
    refine ⟨rs, hroutes, hlength, ?_⟩
    intro i w r hw hr
    rw [Nat.add_comm]
    exact hreads i w r hw hr

theorem readsConnection_of_readConnection {c : Connection} (h : readConnection v = .ok c) :
    ReadsConnection v c := by
  obtain ⟨fs, hfs, h⟩ := bind_eq_ok.1 h
  obtain ⟨source, hsource, h⟩ := bind_eq_ok.1 h
  obtain ⟨target, htarget, ⟨⟩⟩ := bind_eq_ok.1 h
  rw [checked_eq_ok_iff, asObject_eq_ok_iff] at hfs
  rw [moduleId_eq_ok_iff, getD_eq_iff (by simp)] at hsource htarget
  exact ⟨fs, hfs, ⟨source, hsource, rfl⟩, ⟨target, htarget, rfl⟩, rfl⟩

theorem exists_readConnection_iff : (∃ c, readConnection v = .ok c) ↔ IsConnection v := by
  constructor
  . rintro ⟨c, h⟩
    obtain ⟨fs, hfs, ⟨source, hsource, -⟩, ⟨target, htarget, -⟩, -⟩ :=
      readsConnection_of_readConnection h
    exact ⟨fs, hfs, ⟨source, hsource⟩, target, htarget⟩
  . rintro ⟨fs, rfl, ⟨source, hsource⟩, target, htarget⟩
    rw [← getD_eq_iff (by simp), ← moduleId_eq_ok_iff] at hsource htarget
    exact exists_bind_iff.2 ⟨fs, rfl, exists_bind_iff.2 ⟨source, hsource,
      exists_bind_iff.2 ⟨target, htarget, _, rfl⟩⟩⟩

theorem readList_eq_ok_iff {fields : Fields} {name : String} {xs : List Json} :
    readList fields name = .ok xs ↔ (fields.getD name (.array [])).Yields xs := by
  rw [readList, checked_eq_ok_iff, Json.asList_eq_ok_iff]

theorem exists_readList_iff {fields : Fields} {name : String} :
    (∃ xs, readList fields name = .ok xs) ↔ ∀ v ∈ fields.get? name, ∃ xs, v.Yields xs := by
  simp only [readList_eq_ok_iff]
  exact getD_iff (P := fun v => ∃ xs, v.Yields xs) ⟨[], .array []⟩

theorem exists_members_iff {α : Type} {read : Json → Except Malformed α} {P : Json → Prop}
    (hread : ∀ {x}, (∃ y, read x = .ok y) ↔ P x) {fields : Fields} {name : String} :
    (∃ xs, readList fields name = .ok xs ∧ ∃ ys, xs.mapM read = .ok ys) ↔
      ∀ v ∈ fields.get? name, ∃ xs, v.Yields xs ∧ ∀ x ∈ xs, P x := by
  simp only [readList_eq_ok_iff, exists_mapM_iff, hread]
  exact getD_iff (P := fun v => ∃ xs, v.Yields xs ∧ ∀ x ∈ xs, P x) ⟨[], .array [], by simp⟩

theorem exists_metadata_iff {fields : Fields} :
    (∃ m, checked ((fields.getD "metadata" .null).orElse (.object [])).asObject = .ok m) ↔
      ∀ v ∈ fields.get? "metadata", v.isVoid = true ∨ ∃ fs, v = .object fs := by
  simp only [checked_eq_ok_iff, asObject_eq_ok_iff]
  exact orElse_getD_iff (P := fun v => ∃ fs, v = .object fs) ⟨[], rfl⟩

theorem ofDocument_eq_ok_iff {fields : Fields} {b : Blueprint} :
    ofDocument (.object fields) = .ok b ↔ ∃ modules ends metadata,
      readList fields "modules" = .ok modules ∧ modules.mapM readNode = .ok b.nodes ∧
      readList fields "connections" = .ok ends ∧ ends.mapM readConnection = .ok b.connections ∧
      checked ((fields.getD "metadata" .null).orElse (.object [])).asObject = .ok metadata ∧
      readList fields "variables" = .ok b.variableDefs ∧
      readList fields "dataStores" = .ok b.dataStores ∧
      b.name = metadata.getD "name" "" ∧ b.description = metadata.getD "description" "" ∧
      b.version = metadata.getD "version" (.int formatVersion) ∧
      b.scheduling = fields.getD "scheduling" .null ∧ b.settings = fields.getD "settings" .null := by
  constructor
  . intro h
    obtain ⟨_, ⟨⟩, h⟩ := bind_eq_ok.1 h
    obtain ⟨modules, hmodules, h⟩ := bind_eq_ok.1 h
    obtain ⟨nodes, hnodes, h⟩ := bind_eq_ok.1 h
    obtain ⟨ends, hends, h⟩ := bind_eq_ok.1 h
    obtain ⟨connections, hconnections, h⟩ := bind_eq_ok.1 h
    obtain ⟨metadata, hmetadata, h⟩ := bind_eq_ok.1 h
    obtain ⟨variableDefs, hvariables, h⟩ := bind_eq_ok.1 h
    obtain ⟨dataStores, hstores, ⟨⟩⟩ := bind_eq_ok.1 h
    exact ⟨modules, ends, metadata, hmodules, hnodes, hends, hconnections, hmetadata, hvariables,
      hstores, rfl, rfl, rfl, rfl, rfl⟩
  . obtain ⟨name, description, version, nodes, connections, scheduling, variableDefs, dataStores,
      settings⟩ := b
    rintro ⟨modules, ends, metadata, hmodules, hnodes, hends, hconnections, hmetadata, hvariables,
      hstores, rfl, rfl, rfl, rfl, rfl⟩
    exact bind_eq_ok.2 ⟨fields, rfl, bind_eq_ok.2 ⟨modules, hmodules, bind_eq_ok.2 ⟨nodes, hnodes,
      bind_eq_ok.2 ⟨ends, hends, bind_eq_ok.2 ⟨connections, hconnections,
      bind_eq_ok.2 ⟨metadata, hmetadata, bind_eq_ok.2 ⟨variableDefs, hvariables,
      bind_eq_ok.2 ⟨dataStores, hstores, rfl⟩⟩⟩⟩⟩⟩⟩⟩

theorem exists_ofDocument_iff {fields : Fields} :
    (∃ b, ofDocument (.object fields) = .ok b) ↔ IsGrammatical fields := by
  simp only [ofDocument_eq_ok_iff]
  constructor
  . rintro ⟨b, modules, ends, metadata, hmodules, hnodes, hends, hconnections, hmetadata,
      hvariables, hstores, -⟩
    exact {
      metadata := exists_metadata_iff.1 ⟨metadata, hmetadata⟩
      modules := (exists_members_iff exists_readNode_iff).1 ⟨modules, hmodules, b.nodes, hnodes⟩
      connections := (exists_members_iff exists_readConnection_iff).1
        ⟨ends, hends, b.connections, hconnections⟩
      variableDefs := exists_readList_iff.1 ⟨b.variableDefs, hvariables⟩
      dataStores := exists_readList_iff.1 ⟨b.dataStores, hstores⟩ }
  . intro h
    obtain ⟨modules, hmodules, nodes, hnodes⟩ := (exists_members_iff exists_readNode_iff).2 h.modules
    obtain ⟨ends, hends, connections, hconnections⟩ :=
      (exists_members_iff exists_readConnection_iff).2 h.connections
    obtain ⟨metadata, hmetadata⟩ := exists_metadata_iff.2 h.metadata
    obtain ⟨variableDefs, hvariables⟩ := exists_readList_iff.2 h.variableDefs
    obtain ⟨dataStores, hstores⟩ := exists_readList_iff.2 h.dataStores
    exact ⟨⟨_, _, _, nodes, connections, _, variableDefs, dataStores, _⟩, modules, ends, metadata,
      hmodules, hnodes, hends, hconnections, hmetadata, hvariables, hstores, rfl, rfl, rfl, rfl, rfl⟩

theorem reads_of_ofDocument {fields : Fields} {b : Blueprint}
    (h : ofDocument (.object fields) = .ok b) : Reads fields b := by
  obtain ⟨modules, ends, metadata, hmodules, hnodes, hends, hconnections, hmetadata, hvariables,
    hstores, hname, hdescription, hversion, hscheduling, hsettings⟩ := ofDocument_eq_ok_iff.1 h
  rw [readList_eq_ok_iff] at hmodules hends hvariables hstores
  rw [mapM_eq_ok_iff] at hnodes hconnections
  rw [checked_eq_ok_iff, asObject_eq_ok_iff, orElse_eq_object_iff] at hmetadata
  exact {
    metadata := ⟨metadata, hmetadata, hname, hdescription, hversion⟩
    nodes := ⟨modules, hmodules, hnodes.imp fun _ _ => readsModule_of_readNode⟩
    connections := ⟨ends, hends, hconnections.imp fun _ _ => readsConnection_of_readConnection⟩
    scheduling := hscheduling
    variableDefs := hvariables
    dataStores := hstores
    settings := hsettings }

/-- The document of a blueprint is read just where it is grammatical, and is read as it
is written. -/
theorem ofDocument_grammar (fields : Fields) :
    ((∃ b, ofDocument (.object fields) = .ok b) ↔ IsGrammatical fields) ∧
      ∀ b, ofDocument (.object fields) = .ok b → Reads fields b :=
  ⟨exists_ofDocument_iff, fun _ => reads_of_ofDocument⟩

/-- Pairs for an object, a text for a list, and routes whose labels and conditions are taken up. -/
def sparseFields : Fields := [
  ("modules", .array [
    .object [("id", .int (-4)), ("parameters", .array ["xy", .array [.null, 1]])],
    .object [("id", .int (-4)), ("routes", .array [
      .object [("label", ""), ("name", "Big"), ("filter", .object [("conditions", .array [
        .array [.object [("a", "total"), ("b", 5)], 1],
        .array [false]])])],
      .object [("filter", .null)]])]]),
  ("connections", "")
]

theorem ofDocument_grammar_of_sparseFields : IsGrammatical sparseFields ∧
    ∃ b, ofDocument (.object sparseFields) = .ok b ∧ Reads sparseFields b ∧
      b.nodes.map (fun n => n.routes.map fun routes => routes.map (·.label)) =
        [none, some [.string "Big", .string "Route 2"]] := by
  have hlabels : (ofDocument (.object sparseFields)).toOption.map (fun b =>
      b.nodes.map fun n => n.routes.map fun routes => routes.map (·.label)) =
        some [none, some [.string "Big", .string "Route 2"]] := by
    decide +kernel
  obtain ⟨hiff, hreads⟩ := ofDocument_grammar sparseFields
  cases hread : ofDocument (.object sparseFields) with
  | error m =>
    rw [hread] at hlabels
    cases hlabels
  | ok b =>
    rw [hread] at hlabels
    exact ⟨hiff.1 ⟨b, hread⟩, b, rfl, hreads b hread, Option.some.inj hlabels⟩

end Automation.Blueprint
