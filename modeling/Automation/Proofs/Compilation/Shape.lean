import Automation.Compilation
import Automation.Proofs.Assembly.Chain
import Automation.Proofs.Blueprint.RoundTrip
import Automation.Proofs.Blueprint.Validation

/-!
This module contains the exact blueprint of a description. Its modules are those of the resolutions
and, where there are conditions, a router after them; they stand in one chain, so that the build
finds nothing wrong.
-/

namespace Automation.Compilation

open Assembly (edge linkOf link)

def placeAfter (spacing : Int) (before : Nat) : Json :=
  .object [("designer", .object [("x", .int (spacing * before)), ("y", 0)])]

def resolvedNode (spacing : Int) (before : Nat) (r : Resolution) : Node where
  id := before + 1
  moduleType := .string r.moduleType
  version := .int r.version
  parameters := r.parameters
  mapper := .null
  metadata := placeAfter spacing before
  routes := none

def routerNode (spacing : Int) (before : Nat) (version : Int) (routes : List Route) : Node where
  id := before + 1
  moduleType := .string Node.routerType
  version := .int version
  parameters := []
  mapper := .null
  metadata := placeAfter spacing before
  routes := some routes

def chain (n : Nat) : List Connection :=
  (List.range' 1 (n - 1)).map fun k : Nat => edge k (k + 1)

def routesOf (t : Tuning) (e : Extraction) : List Route :=
  Route.ofConditions t.routeFieldSource (e.conditions.map (·.text))

def nodesOf (t : Tuning) (catalog : Catalog) (e : Extraction) (rs : List Resolution) : List Node :=
  rs.mapIdx (resolvedNode t.layoutSpacing) ++
    if e.conditions.isEmpty then []
    else [routerNode t.layoutSpacing rs.length (catalog.versionOf Node.routerType) (routesOf t e)]

def schedulingOf (e : Extraction) : Json :=
  match e.schedule with
  | some s => .object [("interval", .int s.interval)]
  | none => .null

def blueprintOf (t : Tuning) (catalog : Catalog) (description : String) (name : Json)
    (e : Extraction) (rs : List Resolution) : Blueprint where
  name := blueprintName t description name
  description := .string (blueprintDescription t description)
  version := .int Blueprint.formatVersion
  nodes := nodesOf t catalog e rs
  connections := chain (nodesOf t catalog e rs).length
  scheduling := schedulingOf e
  variableDefs := []
  dataStores := []
  settings := .null

theorem chain_succ (n : Nat) : chain (n + 2) = chain (n + 1) ++ [edge (n + 1) (n + 2)] := by
  simp [chain, List.range'_concat, Nat.add_comm 1 n, Int.add_assoc]

theorem chain_append_link {nodes : List Node} {n : Nat}
    (h : nodes.map linkOf = (List.range' 1 n).map fun k : Nat => ⟨k, false⟩) :
    chain n ++ link nodes (n + 1) = chain (n + 1) := by
  rw [Assembly.link_eq_edgesTo, ← List.getLast?_map, h]
  cases n with
  | zero => rfl
  | succ n =>
    rw [List.range'_concat, List.map_append, List.map_singleton, List.getLast?_concat, chain_succ]
    have hid : ((n + 1 + 1 : Nat) : Int) = n + 2 := by omega
    simp [Assembly.edgesTo, Nat.add_comm 1 n, hid]

theorem map_linkOf_mapIdx (spacing : Int) (rs : List Resolution) :
    (rs.mapIdx (resolvedNode spacing)).map linkOf =
      (List.range' 1 rs.length).map fun k : Nat => ⟨k, false⟩ := by
  apply List.ext_getElem
  . simp
  . intro i h₁ h₂
    simp [linkOf, resolvedNode, Node.isRouter, Nat.add_comm]

theorem placement_int (spacing : Int) (before : Nat) :
    Assembly.placement (.int spacing) (before + 1) = .ok (placeAfter spacing before) := by
  simp [Assembly.placement, placeAfter, Json.times, bind, Except.bind, pure, Except.pure]

def inChain (a : Assembly) (spacing : Int) (rs : List Resolution) : Assembly :=
  { a with
    nodes := rs.mapIdx (resolvedNode spacing)
    connections := chain rs.length
    nextId := rs.length + 1
    stage := if rs.isEmpty then .empty else .accumulating }

theorem isFinal_inChain (a : Assembly) (spacing : Int) (rs : List Resolution) :
    (inChain a spacing rs).stage.isFinal = false := by
  cases rs <;> rfl

theorem appendResolution_inChain {a : Assembly} {spacing : Int} (h : a.layoutSpacing = .int spacing)
    (rs : List Resolution) (r : Resolution) :
    (inChain a spacing rs).appendResolution r =
      (inChain a spacing (rs ++ [r]), .ok (rs.length + 1)) := by
  have hlink := chain_append_link (map_linkOf_mapIdx spacing rs)
  unfold Assembly.appendResolution Assembly.appendModule
  rw [Assembly.whenOpen_eq (isFinal_inChain a spacing rs)]
  simp [Assembly.appendNode, Assembly.orRefuse, Assembly.objectOrNull, Assembly.touch, inChain, h,
    Blueprint.toFields_orElse, placement_int, hlink, List.mapIdx_append, resolvedNode, bind,
    Except.bind, pure, Except.pure]

theorem foldlM_appendResolution {a : Assembly} {spacing : Int} (h : a.layoutSpacing = .int spacing)
    (rs more : List Resolution) :
    more.foldlM (fun a r => proceed (a.appendResolution r)) (inChain a spacing rs) =
      .ok (inChain a spacing (rs ++ more)) := by
  -- The resolutions that are appended already vary, for each step adds one to them.
  induction more generalizing rs with
  | nil => simp [pure, Except.pure]
  | cons r more ih =>
    rw [List.foldlM_cons, appendResolution_inChain h]
    exact (ih (rs ++ [r])).trans (by rw [List.append_assoc, List.singleton_append])

theorem routesOf_ne_nil {t : Tuning} {e : Extraction} (h : e.conditions.isEmpty = false) :
    (routesOf t e).isEmpty = false := by
  simpa [routesOf, Route.ofConditions] using h

def inFullChain (a : Assembly) (nodes : List Node) : Assembly :=
  { a with
    nodes
    connections := chain nodes.length
    nextId := nodes.length + 1
    stage := .accumulating }

theorem appendRouter_inChain {a : Assembly} {spacing : Int} (h : a.layoutSpacing = .int spacing)
    (rs : List Resolution) {routes : List Route} (hroutes : routes.isEmpty = false)
    (version : Int) :
    (inChain a spacing rs).appendRouter routes (.int version) =
      (inFullChain a (rs.mapIdx (resolvedNode spacing) ++
        [routerNode spacing rs.length version routes]), .ok (rs.length + 1)) := by
  have hlink := chain_append_link (map_linkOf_mapIdx spacing rs)
  unfold Assembly.appendRouter
  rw [Assembly.whenOpen_eq (isFinal_inChain a spacing rs)]
  simp [hroutes, Assembly.appendNode, Assembly.orRefuse, Assembly.touch, inChain, inFullChain, h,
    placement_int, hlink, routerNode]

theorem appendConditions_inChain {t : Tuning} {a : Assembly}
    (h : a.layoutSpacing = .int t.layoutSpacing) (catalog : Catalog) (e : Extraction)
    {rs : List Resolution} (hrs : rs.isEmpty = false) :
    appendConditions t catalog e (inChain a t.layoutSpacing rs) =
      .ok (inFullChain a (nodesOf t catalog e rs)) := by
  unfold appendConditions nodesOf
  cases hconditions : e.conditions.isEmpty with
  | true => simp [inChain, inFullChain, hrs]
  | false =>
    have hrouter := appendRouter_inChain h rs (routesOf_ne_nil (t := t) hconditions)
      (catalog.versionOf Node.routerType)
    unfold routesOf at hrouter
    simp [hrouter, routesOf, proceed, Except.map]

theorem appendAuxiliary_schedule {a : Assembly} (h : a.stage.isFinal = false) (interval : Int) :
    a.appendAuxiliary "schedule" (.object [("interval", .int interval)]) =
      ({ a with
        scheduling := .object [("interval", .int interval)]
        stage := .accumulating }, .ok ()) := by
  unfold Assembly.appendAuxiliary
  rw [Assembly.whenOpen_eq h]
  rfl

theorem appendSchedule_inFullChain (a : Assembly) (e : Extraction) (nodes : List Node)
    (hscheduling : a.scheduling = .null) :
    appendSchedule e (inFullChain a nodes) =
      .ok { inFullChain a nodes with scheduling := schedulingOf e } := by
  unfold appendSchedule schedulingOf
  cases e.schedule with
  | none => simp [inFullChain, hscheduling]
  | some s =>
    dsimp only
    rw [appendAuxiliary_schedule rfl]
    rfl

def named (t : Tuning) (description : String) (name : Json) : Assembly :=
  { Assembly.start (.int t.layoutSpacing) (.string t.defaultName) (.string t.defaultDescription) with
    name := blueprintName t description name
    description := .string (blueprintDescription t description) }

def assembled (t : Tuning) (catalog : Catalog) (description : String) (name : Json)
    (e : Extraction) (rs : List Resolution) : Assembly :=
  { inFullChain (named t description name) (nodesOf t catalog e rs) with
    scheduling := schedulingOf e }

theorem assemble_eq (t : Tuning) (catalog : Catalog) (description : String) (name : Json)
    (e : Extraction) {rs : List Resolution} (hrs : rs.isEmpty = false) :
    assemble t catalog description name e rs =
      .ok (assembled t catalog description name e rs) := by
  have hspacing : (named t description name).layoutSpacing = .int t.layoutSpacing := rfl
  have hstart : named t description name = inChain (named t description name) t.layoutSpacing [] :=
    rfl
  have hresolutions := foldlM_appendResolution hspacing [] rs
  rw [← hstart, List.nil_append] at hresolutions
  unfold assemble
  change (rs.foldlM (fun a r => proceed (a.appendResolution r)) (named t description name) >>=
    fun a => appendConditions t catalog e a >>= appendSchedule e) = _
  rw [hresolutions]
  change (appendConditions t catalog e (inChain _ _ rs) >>= appendSchedule e) = _
  rw [appendConditions_inChain hspacing catalog e hrs]
  exact appendSchedule_inFullChain _ e _ rfl

theorem exists_of_mem_nodesOf {t : Tuning} {catalog : Catalog} {e : Extraction}
    {rs : List Resolution} {n : Node} (hn : n ∈ nodesOf t catalog e rs) :
    (∃ k, ∃ r ∈ rs, n = resolvedNode t.layoutSpacing k r) ∨
      n = routerNode t.layoutSpacing rs.length (catalog.versionOf Node.routerType)
        (routesOf t e) := by
  unfold nodesOf at hn
  rcases List.mem_append.1 hn with hn | hn
  . obtain ⟨k, hk, rfl⟩ := List.mem_mapIdx.1 hn
    exact .inl ⟨k, rs[k], List.getElem_mem hk, rfl⟩
  . split at hn
    . cases hn
    . exact .inr (List.mem_singleton.1 hn)

theorem ids_nodesOf (t : Tuning) (catalog : Catalog) (e : Extraction) (rs : List Resolution) :
    (nodesOf t catalog e rs).map Node.id =
      (List.range' 1 (nodesOf t catalog e rs).length).map fun k : Nat => (k : Int) := by
  have hresolved : (rs.mapIdx (resolvedNode t.layoutSpacing)).map Node.id =
      (List.range' 1 rs.length).map fun k : Nat => (k : Int) := by
    rw [Assembly.map_id_eq, map_linkOf_mapIdx, List.map_map]
    rfl
  unfold nodesOf
  split
  . rw [List.append_nil, hresolved, List.length_mapIdx]
  . rw [List.map_append, hresolved, List.length_append, List.length_mapIdx, List.length_singleton,
      List.range'_concat, List.map_append]
    simp [routerNode, Int.add_comm]

theorem mem_ids_iff {t : Tuning} {catalog : Catalog} {e : Extraction} {rs : List Resolution}
    {k : Nat} : (k : Int) ∈ (nodesOf t catalog e rs).map Node.id ↔
      1 ≤ k ∧ k ≤ (nodesOf t catalog e rs).length := by
  rw [ids_nodesOf]
  simp only [List.mem_map, List.mem_range'_1, Int.natCast_inj, exists_eq_right]
  omega

theorem joins_of_mem_chain {t : Tuning} {catalog : Catalog} {e : Extraction}
    {rs : List Resolution} {c : Connection} (hc : c ∈ chain (nodesOf t catalog e rs).length) :
    Blueprint.Joins ((nodesOf t catalog e rs).map Node.id) c := by
  obtain ⟨k, hk, rfl⟩ := List.mem_map.1 hc
  rw [List.mem_range'_1] at hk
  exact ⟨k, mem_ids_iff.2 (by omega), (k + 1 : Nat), mem_ids_iff.2 (by omega), rfl, rfl⟩

theorem nodesOf_ne_nil {t : Tuning} {catalog : Catalog} {e : Extraction} {rs : List Resolution}
    (hrs : rs.isEmpty = false) : nodesOf t catalog e rs ≠ [] := by
  cases rs with
  | nil => simp at hrs
  | cons r rs => simp [nodesOf]

theorem nodup_ids_nodesOf (t : Tuning) (catalog : Catalog) (e : Extraction)
    (rs : List Resolution) : ((nodesOf t catalog e rs).map Node.id).Nodup := by
  rw [ids_nodesOf, List.nodup_iff_pairwise_ne, List.pairwise_map]
  apply List.Pairwise.imp _ List.pairwise_lt_range'
  intro a b hab heq
  omega

theorem errors_blueprintOf (t : Tuning) (catalog : Catalog) (description : String) (name : Json)
    (e : Extraction) {rs : List Resolution} (hrs : rs.isEmpty = false) :
    (blueprintOf t catalog description name e rs).errors = .ok [] := by
  apply Blueprint.errors_eq_nil
  . exact nodesOf_ne_nil hrs
  . exact nodup_ids_nodesOf t catalog e rs
  . intro c hc
    exact joins_of_mem_chain hc

def resolve (catalog : Catalog) (sleepSeconds : Json) (e : Extraction) : List Resolution :=
  if e.isBlank then []
  else
    Resolution.trigger catalog (e.trigger.map (·.text)) ::
      e.actions.map fun action => Resolution.action catalog sleepSeconds action.text

theorem map_resolution_resolved (catalog : Catalog) (sleepSeconds : Json) (e : Extraction) :
    (resolved catalog sleepSeconds e).map (·.resolution) = resolve catalog sleepSeconds e := by
  unfold resolved resolve
  split
  . rfl
  . rw [List.map_cons, List.map_map]
    rfl

theorem isEmpty_resolve {e : Extraction} (h : e.isBlank = false) (catalog : Catalog)
    (sleepSeconds : Json) : (resolve catalog sleepSeconds e).isEmpty = false := by
  simp [resolve, h]

theorem compileText_outcome {description : String} {e : Extraction}
    (hextract : Description.extract description = .ok e) (hblank : e.isBlank = false)
    (t : Tuning) (catalog : Catalog) (sleepSeconds name : Json) {rs : List Resolution}
    (hresolve : resolve catalog sleepSeconds e = rs) {b : Blueprint}
    (hblueprint : blueprintOf t catalog description name e rs = b) :
    compileText t catalog sleepSeconds description name =
      { events := (resolved catalog sleepSeconds e).flatMap (·.events) ++
          [.compiled b.name b.nodes.length b.connections.length
            (rs.filter (·.isFallback)).length]
        result := .ok { blueprint := b, extraction := e, resolutions := rs } } := by
  subst hresolve hblueprint
  have hrs := isEmpty_resolve hblank catalog sleepSeconds
  have hbuild := Assembly.build_of_valid
    (a := assembled t catalog description name e (resolve catalog sleepSeconds e)) rfl
    (errors_blueprintOf t catalog description name e hrs)
  unfold compileText
  rw [hextract]
  dsimp only
  rw [map_resolution_resolved, assemble_eq t catalog description name e hrs]
  unfold finish
  dsimp only
  rw [hbuild]
  rfl

theorem compileText_eq {description : String} {e : Extraction}
    (hextract : Description.extract description = .ok e) (hblank : e.isBlank = false)
    (t : Tuning) (catalog : Catalog) (sleepSeconds name : Json) :
    (compileText t catalog sleepSeconds description name).result = .ok
      { blueprint :=
          blueprintOf t catalog description name e (resolve catalog sleepSeconds e)
        extraction := e
        resolutions := resolve catalog sleepSeconds e } := by
  rw [compileText_outcome hextract hblank t catalog sleepSeconds name rfl rfl]

theorem eq_blank_of_extract {description : String} {e : Extraction}
    (hextract : Description.extract description = .ok e) (hblank : e.isBlank = true) :
    e = .blank := by
  unfold Description.extract at hextract
  split at hextract
  . cases hextract
    rfl
  . cases hs : Description.schedule (Description.normalize description) with
    | error f => simp [hs, bind, Except.bind] at hextract
    | ok s =>
      simp only [hs, bind, Except.bind, pure, Except.pure, Except.ok.injEq] at hextract
      rw [← hextract] at hblank
      cases hblank

def blankErrors : List Text :=
  [Blueprint.Defect.noModules.message]

theorem compileText_blank {description : String}
    (hextract : Description.extract description = .ok .blank) (t : Tuning) (catalog : Catalog)
    (sleepSeconds name : Json) :
    compileText t catalog sleepSeconds description name =
      { events := [.rejected (blueprintName t description name) blankErrors]
        result := .error (.invalid blankErrors) } := by
  have hassemble : assemble t catalog description name .blank (resolve catalog sleepSeconds .blank) =
      .ok (named t description name) := rfl
  have herrors : (named t description name).errors = .ok blankErrors := by
    simp [Assembly.errors, Blueprint.errors, Blueprint.defects, Blueprint.danglingConnections,
      Blueprint.duplicates, Blueprint.ids, Assembly.blueprint, named, Assembly.start, blankErrors,
      bind, Except.bind, pure, Except.pure]
  have hbuild : (named t description name).build.2 = .error (.invalid blankErrors) := by
    apply Assembly.build_cases (P := fun s => s.2 = _)
    . intro b hb
      cases hb
    . intro errors hr
      cases hr
    . intro f hf
      simp [herrors] at hf
    . intro _ hvalid
      rw [herrors] at hvalid
      cases hvalid
    . intro errors _ hinvalid _
      rw [herrors, Except.ok.injEq] at hinvalid
      rw [hinvalid]
  unfold compileText
  rw [hextract]
  dsimp only
  rw [map_resolution_resolved, hassemble]
  dsimp only
  unfold finish
  rw [hbuild]
  rfl

theorem compileText_cases (description : String) :
    (∃ fault, ∀ t catalog sleepSeconds name, compileText t catalog sleepSeconds description name =
      { events := [], result := .error (.fault fault) }) ∨
    Description.extract description = .ok .blank ∨
    ∃ e, Description.extract description = .ok e ∧ e.isBlank = false := by
  cases hextract : Description.extract description with
  | error f =>
    left
    unfold compileText
    rw [hextract]
    cases f with
    | malformed => exact ⟨_, fun _ _ _ _ => rfl⟩
    | tooLong digits => exact ⟨_, fun _ _ _ _ => rfl⟩
  | ok e =>
    right
    cases hblank : e.isBlank with
    | true => exact .inl (congrArg Except.ok (eq_blank_of_extract hextract hblank))
    | false => exact .inr ⟨e, rfl, hblank⟩

theorem eq_of_compileText {t : Tuning} {catalog : Catalog} {sleepSeconds name : Json}
    {description : String} {c : Compilation}
    (hc : (compileText t catalog sleepSeconds description name).result = .ok c) :
    Description.extract description = .ok c.extraction ∧ c.extraction.isBlank = false ∧
      c.resolutions = resolve catalog sleepSeconds c.extraction ∧
      c.blueprint = blueprintOf t catalog description name c.extraction c.resolutions := by
  rcases compileText_cases description with ⟨fault, hfault⟩ | hextract | ⟨e, hextract, hblank⟩
  . rw [hfault] at hc
    cases hc
  . rw [compileText_blank hextract] at hc
    cases hc
  . rw [compileText_eq hextract hblank, Except.ok.injEq] at hc
    subst hc
    exact ⟨hextract, hblank, rfl, rfl⟩

theorem errors_of_compileText {t : Tuning} {catalog : Catalog} {sleepSeconds name : Json}
    {description : String} {errors : List Text}
    (hc : (compileText t catalog sleepSeconds description name).result = .error (.invalid errors)) :
    errors = blankErrors := by
  rcases compileText_cases description with ⟨fault, hfault⟩ | hextract | ⟨e, hextract, hblank⟩
  . rw [hfault] at hc
    cases hc
  . rw [compileText_blank hextract] at hc
    cases hc
    rfl
  . rw [compileText_eq hextract hblank] at hc
    cases hc

end Automation.Compilation
