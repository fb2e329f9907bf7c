import Automation.Proofs.Choice.Parameters
import Automation.Proofs.Compilation.Shape
import Automation.Proofs.Text.Case
import Automation.Proofs.Text.Strip

/-!
This module contains the document of a compiled blueprint: there always is one, it can be sent and
it is read from its stored text as the same document, as long as all texts that go into it are
whole.
-/

namespace Automation

namespace Compilation

section Name

variable (t : Tuning) (catalog : Catalog) (sleepSeconds : Json) (description : String) (name : Json)

theorem orElse_orElse (v default : Json) : (v.orElse default).orElse default = v.orElse default := by
  unfold Json.orElse
  split
  . split <;> rfl
  . rfl

theorem blueprintName_blueprintName :
    blueprintName t description (blueprintName t description name) =
      blueprintName t description name := by
  apply orElse_orElse

theorem compileText_blueprintName :
    (compileText t catalog sleepSeconds description (blueprintName t description name)).result =
      (compileText t catalog sleepSeconds description name).result := by
  rcases compileText_cases description with ⟨fault, hfault⟩ | hextract | ⟨e, hextract, hblank⟩
  . rw [hfault, hfault]
  . rw [compileText_blank hextract, compileText_blank hextract]
  . rw [compileText_eq hextract hblank, compileText_eq hextract hblank]
    unfold blueprintOf
    rw [blueprintName_blueprintName]

end Name

section Blank

theorem strip_ne_nil {description : String} (h : Description.isBlank description = false) :
    Text.strip description.toList ≠ [] := by
  simp only [Description.isBlank, Bool.not_eq_false', List.any_eq_true] at h
  obtain ⟨c, hc, hword⟩ := h
  have hblank : Text.isBlank c = false := by
    rw [← Bool.not_eq_true]
    intro hblank
    rw [Text.isWord_of_isBlank hblank] at hword
    cases hword
  exact List.ne_nil_of_mem (Text.mem_stripWhere hc hblank)

theorem not_isBlank_of_extract {description : String} {e : Extraction}
    (hextract : Description.extract description = .ok e) (hblank : e.isBlank = false) :
    Description.isBlank description = false := by
  rw [← Bool.not_eq_true]
  intro hsays
  rw [Description.extract, if_pos hsays, Except.ok.injEq] at hextract
  rw [← hextract] at hblank
  cases hblank

theorem blueprintDescription_of_not_isBlank {description : String}
    (h : Description.isBlank description = false) (t : Tuning) :
    blueprintDescription t description = .whole (String.ofList (Text.strip description.toList)) := by
  unfold blueprintDescription
  dsimp only
  rw [if_neg]
  intro hempty
  apply strip_ne_nil h
  simpa [String.isEmpty_iff] using hempty

end Blank

section Document

variable {t : Tuning} {catalog : Catalog} {description : String} {name : Json} {e : Extraction}
  {rs : List Resolution}

def nodeDepth : Nat := Choice.parameterDepth + 1

structure Admits (isText : Text → Bool) (source : Text) : Prop where
  whole : ∀ s : String, isText s = true
  slot : ∀ path : String, isText (Route.fieldSlot source path) = true

theorem admits_all (source : Text) : Admits (fun _ => true) source where
  whole _ := rfl
  slot _ := rfl

theorem admits_isWhole {source : Text} (h : source.isWhole = true) : Admits Text.isWhole source where
  whole _ := rfl
  slot path := by
    obtain ⟨s, rfl⟩ := Text.eq_whole_of_isWhole h
    rfl

variable {isText : Text → Bool} {source : Text}

theorem Admits.isLegible_of_isTidy (h : Admits isText source) {v : Json} {room : Nat}
    (hv : v.isTidy room = true) : v.isLegible isText room = true := by
  apply Json.isLegible_of_imp _ hv
  intro t ht
  obtain ⟨s, rfl⟩ := Text.eq_whole_of_isWhole ht
  exact h.whole s

theorem isTidy_resolvedNode {r : Resolution} (hr : r.IsTidy) (spacing : Int) (before : Nat) :
    (resolvedNode spacing before r).toJson.isTidy nodeDepth = true := by
  have hparameters : (Json.object r.parameters).isTidy (nodeDepth - 1) = true := hr
  change (true && (true && (true && (true && ((Json.object r.parameters).isTidy _ && true))))) = true
  rw [hparameters]
  rfl

theorem exists_filterOf (name condition : String) : ∃ path operator value : String, ∀ source,
    Route.filterOf source name condition =
      ⟨.string name, .string (Route.fieldSlot source path), .string operator, .string value⟩ := by
  unfold Route.filterOf
  split
  . exact ⟨_, _, _, fun _ => rfl⟩
  . exact ⟨_, _, _, fun _ => rfl⟩

theorem isLegible_ofCondition (h : Admits isText source) (position : Nat) (condition : String) :
    (Route.ofCondition source position condition).toJson.isLegible isText (nodeDepth - 2) = true := by
  obtain ⟨path, operator, value, hfilter⟩ := exists_filterOf (Route.labelAt position) condition
  rw [Route.ofCondition, hfilter]
  simp [Route.toJson, RouteFilter.toJson, Json.isLegible, Json.areLegible, Json.haveLegible,
    h.whole, h.slot, nodeDepth, Choice.parameterDepth, Fields.areApart, Fields.has, Fields.get?]

theorem isLegible_array_map {f : α → Json} {xs : List α} {room : Nat}
    (h : ∀ x ∈ xs, (f x).isLegible isText room = true) :
    (Json.array (xs.map f)).isLegible isText (room + 1) = true := by
  rw [Json.isLegible, Bool.and_eq_true, Json.areLegible_iff, List.forall_mem_map]
  exact ⟨by simp, h⟩

theorem isLegible_routerNode (h : Admits isText t.routeFieldSource) (spacing : Int) (before : Nat)
    (version : Int) (e : Extraction) :
    (routerNode spacing before version (routesOf t e)).toJson.isLegible isText nodeDepth = true := by
  have hroutes : (Json.array ((routesOf t e).map Route.toJson)).isLegible isText (nodeDepth - 1) =
      true := by
    apply isLegible_array_map
    intro route hroute
    obtain ⟨k, hk, rfl⟩ := List.mem_mapIdx.1 hroute
    exact isLegible_ofCondition h ..
  have htype : isText Node.routerType = true := h.whole _
  change (true && (true && (isText Node.routerType && (true && (true && (true &&
    (true && (Json.array ((routesOf t e).map Route.toJson)).isLegible isText _ && true))))))) = true
  rw [hroutes, htype]
  rfl

theorem isLegible_nodesOf (h : Admits isText t.routeFieldSource) (hrs : ∀ r ∈ rs, r.IsTidy) :
    ∀ n ∈ nodesOf t catalog e rs, n.toJson.isLegible isText nodeDepth = true := by
  intro n hn
  obtain ⟨k, r, hr, rfl⟩ | rfl := exists_of_mem_nodesOf hn
  . exact h.isLegible_of_isTidy (isTidy_resolvedNode (hrs r hr) ..)
  . exact isLegible_routerNode h ..

theorem isLegible_chain (n : Nat) : ∀ c ∈ chain n, c.toJson.isLegible isText nodeDepth = true := by
  intro c hc
  obtain ⟨k, _, rfl⟩ := List.mem_map.1 hc
  rfl

theorem isTidy_resolve (catalog : Catalog) (sleepSeconds : Int) (e : Extraction) :
    ∀ r ∈ resolve catalog (.int sleepSeconds) e, r.IsTidy := by
  intro r hr
  unfold resolve at hr
  split at hr
  . cases hr
  . rcases List.mem_cons.1 hr with rfl | hr
    . apply Resolution.isTidy_trigger
    . obtain ⟨clause, _, rfl⟩ := List.mem_map.1 hr
      apply Resolution.isTidy_action

def documentOf (b : Blueprint) : Json :=
  let metadata : Fields := [
    ("version", b.version),
    ("name", b.name),
    ("description", b.description)
  ]
  let head : Fields := [("metadata", .object metadata)]
  let flow : Fields := [
    ("modules", .array (b.nodes.map Node.toJson)),
    ("connections", .array (b.connections.map Connection.toJson))
  ]
  .object (head ++ optionalField "scheduling" b.scheduling ++ flow)

theorem toJson_blueprintOf (t : Tuning) (catalog : Catalog) (description : String) (name : Json)
    (e : Extraction) (rs : List Resolution) :
    (blueprintOf t catalog description name e rs).toJson =
      .ok (documentOf (blueprintOf t catalog description name e rs)) := by
  unfold blueprintOf schedulingOf
  cases e.schedule with
  | none => rfl
  | some s => rfl

def documentDepth : Nat := nodeDepth + 2

theorem isLegible_documentOf {b : Blueprint} {version : Int} {name description : Text}
    (hversion : b.version = .int version) (hname : b.name = .string name ∧ isText name = true)
    (hdescription : b.description = .string description ∧ isText description = true)
    (hscheduling : b.scheduling = .null ∨
      ∃ interval : Int, b.scheduling = .object [("interval", .int interval)])
    (hnodes : ∀ n ∈ b.nodes, n.toJson.isLegible isText nodeDepth = true)
    (hconnections : ∀ c ∈ b.connections, c.toJson.isLegible isText nodeDepth = true) :
    (documentOf b).isLegible isText documentDepth = true := by
  have hmodules : (Json.array (b.nodes.map Node.toJson)).isLegible isText (documentDepth - 1) = true :=
    isLegible_array_map hnodes
  have hedges : (Json.array (b.connections.map Connection.toJson)).isLegible isText
      (documentDepth - 1) = true :=
    isLegible_array_map hconnections
  have hmetadata : (Json.object [("version", .int version), ("name", .string name),
      ("description", .string description)]).isLegible isText (documentDepth - 1) = true := by
    change (true && (true && (true && (isText name && (true && (isText description && true)))))) = true
    rw [hname.2, hdescription.2]
    rfl
  unfold documentOf
  rw [hversion, hname.1, hdescription.1]
  rcases hscheduling with hscheduling | ⟨interval, hscheduling⟩
  . rw [hscheduling]
    change (true && (true && (Json.object _).isLegible isText _ && (true && (Json.array _).isLegible
      isText _ && (true && (Json.array _).isLegible isText _ && true)))) = true
    rw [hmetadata, hmodules, hedges]
    rfl
  . rw [hscheduling]
    change (true && (true && (Json.object _).isLegible isText _ && (true && (true &&
      (Json.array _).isLegible isText _ && (true && (Json.array _).isLegible isText _ && true))))) =
        true
    rw [hmetadata, hmodules, hedges]
    rfl

variable {sleepSeconds : Int} {c : Compilation}

theorem toJson_of_compileText
    (hc : (compileText t catalog (.int sleepSeconds) description name).result = .ok c) :
    c.blueprint.toJson = .ok (documentOf c.blueprint) := by
  obtain ⟨_, _, _, hblueprint⟩ := eq_of_compileText hc
  rw [hblueprint]
  apply toJson_blueprintOf

theorem isLegible_nodes_of_compileText
    (hc : (compileText t catalog (.int sleepSeconds) description name).result = .ok c)
    (h : Admits isText t.routeFieldSource) :
    ∀ n ∈ c.blueprint.nodes, n.toJson.isLegible isText nodeDepth = true := by
  obtain ⟨_, _, hresolutions, hblueprint⟩ := eq_of_compileText hc
  rw [hblueprint]
  apply isLegible_nodesOf h
  rw [hresolutions]
  apply isTidy_resolve

theorem isLegible_of_compileText
    (hc : (compileText t catalog (.int sleepSeconds) description name).result = .ok c)
    (h : Admits isText t.routeFieldSource) {title : Text}
    (htitle : c.blueprint.name = .string title ∧ isText title = true) :
    (documentOf c.blueprint).isLegible isText documentDepth = true := by
  have hnodes := isLegible_nodes_of_compileText hc h
  obtain ⟨hextract, hblank, _, hblueprint⟩ := eq_of_compileText hc
  have hdescription : c.blueprint.description =
      .string (String.ofList (Text.strip description.toList)) := by
    rw [hblueprint, ← blueprintDescription_of_not_isBlank (not_isBlank_of_extract hextract hblank) t]
    rfl
  have hversion : c.blueprint.version = .int Blueprint.formatVersion := by
    rw [hblueprint]
    rfl
  apply isLegible_documentOf hversion htitle ⟨hdescription, h.whole _⟩ _ hnodes
  . rw [hblueprint]
    apply isLegible_chain
  . rw [hblueprint]
    unfold blueprintOf schedulingOf
    split
    . exact .inr ⟨_, rfl⟩
    . exact .inl rfl

theorem isTidy_nodes_of_compileText
    (hc : (compileText t catalog (.int sleepSeconds) description name).result = .ok c)
    (hsource : t.routeFieldSource.isWhole = true) :
    ∀ n ∈ c.blueprint.nodes, n.toJson.isTidy nodeDepth = true :=
  isLegible_nodes_of_compileText hc (admits_isWhole hsource)

theorem isTidy_of_compileText
    (hc : (compileText t catalog (.int sleepSeconds) description name).result = .ok c)
    (hsource : t.routeFieldSource.isWhole = true) {title : String}
    (htitle : c.blueprint.name = .string title) :
    (documentOf c.blueprint).isTidy documentDepth = true :=
  isLegible_of_compileText hc (admits_isWhole hsource) ⟨htitle, rfl⟩

theorem compileText_of_conditions_nil
    (hc : (compileText t catalog (.int sleepSeconds) description name).result = .ok c)
    (hnone : c.extraction.conditions = []) (source : Text) :
    (compileText { t with routeFieldSource := source } catalog (.int sleepSeconds) description
      name).result = .ok c := by
  obtain ⟨hextract, hblank, hresolutions, hblueprint⟩ := eq_of_compileText hc
  have hnodes : nodesOf { t with routeFieldSource := source } catalog c.extraction c.resolutions =
      nodesOf t catalog c.extraction c.resolutions := by
    unfold nodesOf
    rw [hnone]
    rfl
  have hsame : blueprintOf { t with routeFieldSource := source } catalog description name c.extraction
      c.resolutions = c.blueprint := by
    rw [hblueprint]
    unfold blueprintOf
    rw [hnodes]
    rfl
  rw [compileText_eq hextract hblank, ← hresolutions, hsame]

theorem moduleType_of_compileText {sleepSeconds : Json}
    (hc : (compileText t catalog sleepSeconds description name).result = .ok c) :
    ∀ n ∈ c.blueprint.nodes,
      (∃ s : String, n.moduleType = .string s) ∧ ∃ v : Int, n.version = .int v := by
  obtain ⟨_, _, _, hblueprint⟩ := eq_of_compileText hc
  rw [hblueprint]
  intro n hn
  obtain ⟨k, r, _, rfl⟩ | rfl := exists_of_mem_nodesOf hn
  . exact ⟨⟨_, rfl⟩, _, rfl⟩
  . exact ⟨⟨_, rfl⟩, _, rfl⟩

theorem version_resolve {sleepSeconds : Json} : ∀ r ∈ resolve catalog sleepSeconds e,
    ∃ moduleType, r.version = catalog.versionOf moduleType := by
  intro r hr
  unfold resolve at hr
  split at hr
  . cases hr
  . rcases List.mem_cons.1 hr with rfl | hr
    . rw [Resolution.trigger_eq]
      dsimp only
      split <;> exact ⟨_, rfl⟩
    . obtain ⟨clause, _, rfl⟩ := List.mem_map.1 hr
      rw [Resolution.action_eq]
      dsimp only
      split <;> exact ⟨_, rfl⟩

theorem version_of_compileText {sleepSeconds : Json}
    (hc : (compileText t catalog sleepSeconds description name).result = .ok c) :
    ∀ n ∈ c.blueprint.nodes, ∃ moduleType, n.version = .int (catalog.versionOf moduleType) := by
  obtain ⟨_, _, hresolutions, hblueprint⟩ := eq_of_compileText hc
  rw [hblueprint]
  intro n hn
  obtain ⟨k, r, hr, rfl⟩ | rfl := exists_of_mem_nodesOf hn
  . obtain ⟨moduleType, hversion⟩ := version_resolve r (hresolutions ▸ hr)
    exact ⟨moduleType, congrArg Json.int hversion⟩
  . exact ⟨_, rfl⟩

theorem connections_of_compileText
    (hc : (compileText t catalog (.int sleepSeconds) description name).result = .ok c) :
    ∀ e ∈ c.blueprint.connections,
      (∃ source : Int, e.source = .int source) ∧ (∃ target : Int, e.target = .int target) ∧
        e.route = .null := by
  obtain ⟨_, _, _, hblueprint⟩ := eq_of_compileText hc
  rw [hblueprint]
  intro e he
  obtain ⟨k, _, rfl⟩ := List.mem_map.1 he
  exact ⟨⟨_, rfl⟩, ⟨_, rfl⟩, rfl⟩

theorem isSendable_fallbacks (rs : List Resolution) :
    ∀ f ∈ Resolution.fallbacks rs, f.moduleType.isSendable = true ∧ f.service.isSendable = true := by
  intro f hf
  unfold Resolution.fallbacks at hf
  obtain ⟨r, _, rfl⟩ := List.mem_map.1 hf
  refine ⟨rfl, ?_⟩
  unfold Resolution.serviceName Service.label
  split <;> rfl

end Document

end Compilation

end Automation
