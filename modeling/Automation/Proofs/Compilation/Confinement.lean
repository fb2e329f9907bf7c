import Automation.Proofs.Compilation.Artifact

/-!
This module contains how far the tuning and the catalog reach into what is compiled. Each of them
has places of its own. Two compilations of a description whose tuning and catalogs differ agree on
all that is left when the places of the differences are hidden.
-/

namespace Automation

def Fields.hide (fields : Fields) (key : Text) : Fields :=
  fields.map fun (k, v) => (k, if k = key then .null else v)

def Json.hideAt : List Text → Json → Json
  | [], _ => .null
  | key :: path, .object fields =>
    .object (fields.map fun (k, v) => (k, if k = key then v.hideAt path else v))
  | _, v => v

theorem Choice.fallbackAction_eq (text : String) :
    (∀ sleepSeconds,
      fallbackAction sleepSeconds text = ⟨"flow.sleep", [("delay", sleepSeconds)]⟩) ∨
    ∀ sleepSeconds other, fallbackAction sleepSeconds text = fallbackAction other text := by
  unfold fallbackAction
  cases mentions text ["wait", "delay", "pause"] with
  | true =>
    left
    intro sleepSeconds
    rfl
  | false =>
    right
    intro sleepSeconds other
    rfl

def Route.face (r : Route) : Json × Json × Json × Json :=
  (r.id, r.label, r.filter.operator, r.filter.value)

namespace Compilation

/-- What may differ between two compilations of one description. -/
structure Leeway where
  catalog : Bool
  layoutSpacing : Bool
  sleepSeconds : Bool
  routeFieldSource : Bool
  naming : Bool

structure Leeway.Allows (l : Leeway) (t t' : Tuning) (catalog catalog' : Catalog) : Prop where
  catalog : l.catalog = false →
    ∀ moduleType, catalog.versionOf moduleType = catalog'.versionOf moduleType
  layoutSpacing : l.layoutSpacing = false → t.layoutSpacing = t'.layoutSpacing
  sleepSeconds : l.sleepSeconds = false → t.sleepSeconds = t'.sleepSeconds
  routeFieldSource : l.routeFieldSource = false → t.routeFieldSource = t'.routeFieldSource
  naming : l.naming = false → t.defaultName = t'.defaultName ∧ t.nameWordLimit = t'.nameWordLimit

namespace Leeway

def hideParameters (l : Leeway) (moduleType : Json) (parameters : Fields) : Fields :=
  if l.sleepSeconds && moduleType = "flow.sleep" then parameters.hide "delay" else parameters

def hideResolution (l : Leeway) (r : Resolution) : Resolution :=
  { r with
    version := if l.catalog then 0 else r.version
    parameters := l.hideParameters r.moduleType r.parameters }

def hideRoute (l : Leeway) (r : Route) : Route :=
  if l.routeFieldSource then { r with filter := { r.filter with field := .null } } else r

def hidePlace (l : Leeway) (metadata : Json) : Json :=
  if l.layoutSpacing then metadata.hideAt ["designer", "x"] else metadata

def hideNode (l : Leeway) (n : Node) : Node :=
  { n with
    version := if l.catalog then .null else n.version
    parameters := l.hideParameters n.moduleType n.parameters
    metadata := l.hidePlace n.metadata
    routes := n.routes.map (·.map l.hideRoute) }

def hide (l : Leeway) (c : Compilation) : Compilation where
  blueprint := { c.blueprint with
    name := if l.naming then .null else c.blueprint.name
    nodes := c.blueprint.nodes.map l.hideNode }
  extraction := c.extraction
  resolutions := c.resolutions.map l.hideResolution

end Leeway

/-- What no tuning and no catalog can change. -/
structure SameShape (c c' : Compilation) : Prop where
  extraction : c.extraction = c'.extraction
  resolutions : c.resolutions.map (fun r => (r.moduleType, r.service, r.isFallback)) =
    c'.resolutions.map fun r => (r.moduleType, r.service, r.isFallback)
  nodes : c.blueprint.nodes.map (fun n => (n.id, n.moduleType)) =
    c'.blueprint.nodes.map fun n => (n.id, n.moduleType)
  connections : c.blueprint.connections = c'.blueprint.connections
  scheduling : c.blueprint.scheduling = c'.blueprint.scheduling
  description : c.blueprint.description = c'.blueprint.description
  routes : c.blueprint.nodes.map (fun n => n.routes.map (·.map Route.face)) =
    c'.blueprint.nodes.map fun n => n.routes.map (·.map Route.face)

inductive SameOutcome : Except Failure Compilation → Except Failure Compilation → Prop where
  | failed (f : Failure) : SameOutcome (.error f) (.error f)
  | compiled {c c' : Compilation} (h : SameShape c c') : SameOutcome (.ok c) (.ok c')

theorem compile_cases (description name : Json) :
    (∃ s, ∀ t catalog sleepSeconds, compile t catalog sleepSeconds description name =
      compileText t catalog sleepSeconds s name) ∨
    ∃ outcome, ∀ t catalog sleepSeconds,
      compile t catalog sleepSeconds description name = outcome := by
  cases description with
  | string text =>
    cases hencoded : text.encoded with
    | ok s => exact .inl ⟨s, fun _ _ _ => by simp [compile, hencoded]⟩
    | error f => exact .inr ⟨_, fun _ _ _ => by simp only [compile, hencoded]; rfl⟩
  | _ => exact .inr ⟨_, fun _ _ _ => rfl⟩

section

variable {l : Leeway} {t t' : Tuning} {catalog catalog' : Catalog}
  (h : l.Allows t t' catalog catalog')
include h

theorem hideResolution_of (choice : Choice) (service : Option Service) (isFallback : Bool) :
    l.hideResolution (.of catalog choice service isFallback) =
      l.hideResolution (.of catalog' choice service isFallback) := by
  unfold Leeway.hideResolution Resolution.of
  dsimp only
  cases hl : l.catalog with
  | true => rfl
  | false => rw [h.catalog hl]

theorem hideResolution_trigger (clause : Option String) :
    l.hideResolution (.trigger catalog clause) = l.hideResolution (.trigger catalog' clause) := by
  rw [Resolution.trigger_eq, Resolution.trigger_eq]
  dsimp only
  split
  . apply hideResolution_of h
  . apply hideResolution_of h

theorem hideResolution_sleep (service : Option Service) (isFallback : Bool) :
    l.hideResolution (.of catalog ⟨"flow.sleep", [("delay", .int t.sleepSeconds)]⟩ service
        isFallback) =
      l.hideResolution (.of catalog' ⟨"flow.sleep", [("delay", .int t'.sleepSeconds)]⟩ service
        isFallback) := by
  rw [hideResolution_of h]
  unfold Leeway.hideResolution Leeway.hideParameters Resolution.of
  dsimp only
  cases hl : l.sleepSeconds with
  | true => rfl
  | false => rw [h.sleepSeconds hl]

theorem hideResolution_action (clause : String) :
    l.hideResolution (.action catalog (.int t.sleepSeconds) clause) =
      l.hideResolution (.action catalog' (.int t'.sleepSeconds) clause) := by
  rw [Resolution.action_eq, Resolution.action_eq]
  dsimp only
  split
  . apply hideResolution_of h
  . cases Choice.fallbackAction_eq (toLowerCase clause) with
    | inl hsleep =>
      rw [hsleep, hsleep]
      exact hideResolution_sleep h none true
    | inr hother =>
      rw [hother (.int t.sleepSeconds) (.int t'.sleepSeconds)]
      exact hideResolution_of h _ none true

theorem map_hideResolution (e : Extraction) :
    (resolve catalog (.int t.sleepSeconds) e).map l.hideResolution =
      (resolve catalog' (.int t'.sleepSeconds) e).map l.hideResolution := by
  unfold resolve
  split
  . rfl
  . rw [List.map_cons, List.map_cons, hideResolution_trigger h, List.map_map, List.map_map,
      List.map_congr_left]
    intro action _
    exact hideResolution_action h action.text

theorem hidePlace_placeAfter (before : Nat) :
    l.hidePlace (placeAfter t.layoutSpacing before) =
      l.hidePlace (placeAfter t'.layoutSpacing before) := by
  unfold Leeway.hidePlace
  cases hl : l.layoutSpacing with
  | true => rfl
  | false => rw [h.layoutSpacing hl]

theorem hideNode_resolvedNode {r r' : Resolution} (hr : l.hideResolution r = l.hideResolution r')
    (before : Nat) :
    l.hideNode (resolvedNode t.layoutSpacing before r) =
      l.hideNode (resolvedNode t'.layoutSpacing before r') := by
  simp only [Leeway.hideResolution, Resolution.mk.injEq] at hr
  obtain ⟨htype, hversion, hparameters, -, -⟩ := hr
  unfold Leeway.hideNode resolvedNode
  dsimp only
  rw [hidePlace_placeAfter h, hparameters, htype]
  cases hl : l.catalog with
  | true => rfl
  | false =>
    rw [hl] at hversion
    simp only [Bool.false_eq_true, if_false] at hversion ⊢
    rw [hversion]

theorem hideRoute_ofCondition (position : Nat) (condition : String) :
    l.hideRoute (.ofCondition t.routeFieldSource position condition) =
      l.hideRoute (.ofCondition t'.routeFieldSource position condition) := by
  unfold Leeway.hideRoute
  cases hl : l.routeFieldSource with
  | true =>
    rw [if_pos rfl, if_pos rfl]
    unfold Route.ofCondition Route.filterOf
    cases Route.splitCondition? (Text.strip condition.toList) with
    | none => rfl
    | some parts => rfl
  | false => rw [h.routeFieldSource hl]

theorem map_hideRoute (e : Extraction) :
    (routesOf t e).map l.hideRoute = (routesOf t' e).map l.hideRoute := by
  apply List.ext_getElem
  . simp [routesOf, Route.ofConditions]
  . intro k h₁ h₂
    simp [routesOf, Route.ofConditions, hideRoute_ofCondition h]

theorem hideNode_routerNode (before : Nat) (e : Extraction) :
    l.hideNode (routerNode t.layoutSpacing before (catalog.versionOf Node.routerType)
        (routesOf t e)) =
      l.hideNode (routerNode t'.layoutSpacing before (catalog'.versionOf Node.routerType)
        (routesOf t' e)) := by
  unfold Leeway.hideNode routerNode
  dsimp only [Option.map_some]
  rw [hidePlace_placeAfter h, map_hideRoute h]
  cases hl : l.catalog with
  | true => rfl
  | false => rw [h.catalog hl]

theorem map_hideNode {rs rs' : List Resolution}
    (hrs : rs.map l.hideResolution = rs'.map l.hideResolution) (e : Extraction) :
    (nodesOf t catalog e rs).map l.hideNode = (nodesOf t' catalog' e rs').map l.hideNode := by
  have hlength : rs.length = rs'.length := by simpa using congrArg List.length hrs
  have hresolved : (rs.mapIdx (resolvedNode t.layoutSpacing)).map l.hideNode =
      (rs'.mapIdx (resolvedNode t'.layoutSpacing)).map l.hideNode := by
    apply List.ext_getElem
    . simpa using hlength
    . intro k h₁ h₂
      simp only [List.length_map, List.length_mapIdx] at h₁ h₂
      have hr : l.hideResolution rs[k] = l.hideResolution rs'[k] := by
        have hk := congrArg (·[k]?) hrs
        simpa [h₁, h₂] using hk
      simpa using hideNode_resolvedNode h hr k
  unfold nodesOf
  rw [List.map_append, List.map_append, hresolved, hlength]
  split
  . rfl
  . rw [List.map_singleton, List.map_singleton, hideNode_routerNode h]

theorem hide_blueprintName (description : String) (name : Json) :
    (if l.naming then .null else blueprintName t description name) =
      if l.naming then .null else blueprintName t' description name := by
  cases hl : l.naming with
  | true => rfl
  | false =>
    obtain ⟨hdefault, hlimit⟩ := h.naming hl
    unfold blueprintName
    rw [hdefault, hlimit]

theorem map_hide_compileText (description : String) (name : Json) :
    (compileText t catalog (.int t.sleepSeconds) description name).result.map l.hide =
      (compileText t' catalog' (.int t'.sleepSeconds) description name).result.map l.hide := by
  rcases compileText_cases description with ⟨fault, hfault⟩ | hextract | ⟨e, hextract, hblank⟩
  . rw [hfault, hfault]
  . rw [compileText_blank hextract, compileText_blank hextract]
  . have hspoken := not_isBlank_of_extract hextract hblank
    have hresolutions := map_hideResolution h e
    have hnodes := map_hideNode h hresolutions e
    have hlength := congrArg List.length hnodes
    rw [List.length_map, List.length_map] at hlength
    rw [compileText_eq hextract hblank, compileText_eq hextract hblank]
    simp only [Except.map, Leeway.hide, blueprintOf, hresolutions, hnodes, hlength,
      hide_blueprintName h, blueprintDescription_of_not_isBlank hspoken]

theorem map_hide (description name : Json) :
    (compile t catalog (.int t.sleepSeconds) description name).result.map l.hide =
      (compile t' catalog' (.int t'.sleepSeconds) description name).result.map l.hide := by
  rcases compile_cases description name with ⟨s, hs⟩ | ⟨outcome, houtcome⟩
  . rw [hs, hs]
    exact map_hide_compileText h s name
  . rw [houtcome, houtcome]

end

section

variable {l : Leeway} {c c' : Compilation}

theorem face_hideRoute (r : Route) : (l.hideRoute r).face = r.face := by
  unfold Leeway.hideRoute
  split
  . rfl
  . rfl

theorem faces_hideNode (n : Node) :
    (l.hideNode n).routes.map (·.map Route.face) = n.routes.map (·.map Route.face) := by
  unfold Leeway.hideNode
  cases n.routes with
  | none => rfl
  | some routes => simp [face_hideRoute]

theorem sameShape_of_hide (h : l.hide c = l.hide c') : SameShape c c' where
  extraction := congrArg (·.extraction) h
  resolutions := by
    have hresolutions := congrArg
      (fun c => c.resolutions.map fun r => (r.moduleType, r.service, r.isFallback)) h
    simpa [Leeway.hide, Function.comp_def, Leeway.hideResolution] using hresolutions
  nodes := by
    have hnodes := congrArg (fun c => c.blueprint.nodes.map fun n => (n.id, n.moduleType)) h
    simpa [Leeway.hide, Function.comp_def, Leeway.hideNode] using hnodes
  connections := congrArg (·.blueprint.connections) h
  scheduling := congrArg (·.blueprint.scheduling) h
  description := congrArg (·.blueprint.description) h
  routes := by
    have hroutes := congrArg
      (fun c => c.blueprint.nodes.map fun n => n.routes.map (·.map Route.face)) h
    simpa [Leeway.hide, Function.comp_def, faces_hideNode] using hroutes

theorem sameOutcome_of_map {r r' : Except Failure Compilation}
    (h : r.map l.hide = r'.map l.hide) : SameOutcome r r' := by
  cases r with
  | error f =>
    cases r' with
    | error f' =>
      cases h
      exact .failed f
    | ok c' => cases h
  | ok c =>
    cases r' with
    | error f' => cases h
    | ok c' => exact .compiled (sameShape_of_hide (Except.ok.inj h))

end

theorem compileText_unread (t : Tuning) (catalog : Catalog) (sleepSeconds name : Json)
    (description : String) (defaultDescription : Text) (maxDescriptionChars : Int) :
    compileText { t with defaultDescription, maxDescriptionChars } catalog sleepSeconds description
        name =
      compileText t catalog sleepSeconds description name := by
  rcases compileText_cases description with ⟨fault, hfault⟩ | hextract | ⟨e, hextract, hblank⟩
  . rw [hfault, hfault]
  . rw [compileText_blank hextract, compileText_blank hextract]
    rfl
  . have hspoken := not_isBlank_of_extract hextract hblank
    have hblueprint : blueprintOf { t with defaultDescription, maxDescriptionChars } catalog
        description name e (resolve catalog sleepSeconds e) =
        blueprintOf t catalog description name e (resolve catalog sleepSeconds e) := by
      simp only [blueprintOf, blueprintDescription_of_not_isBlank hspoken]
      rfl
    rw [compileText_outcome hextract hblank t catalog sleepSeconds name rfl rfl,
      compileText_outcome hextract hblank _ catalog sleepSeconds name rfl hblueprint]

theorem compile_unread (t : Tuning) (catalog : Catalog) (sleepSeconds description name : Json)
    (defaultDescription : Text) (maxDescriptionChars : Int) :
    compile { t with defaultDescription, maxDescriptionChars } catalog sleepSeconds description
        name =
      compile t catalog sleepSeconds description name := by
  rcases compile_cases description name with ⟨s, hs⟩ | ⟨outcome, houtcome⟩
  . rw [hs, hs, compileText_unread]
  . rw [houtcome, houtcome]

/--
Tunings and catalogs cannot change the shape of what is compiled, nor whether anything is. Each of
their differences stays in its own places, and two of the settings have none.
-/
theorem compile_confined (t t' : Tuning) (catalog catalog' : Catalog) (description name : Json) :
    SameOutcome (compile t catalog (.int t.sleepSeconds) description name).result
      (compile t' catalog' (.int t'.sleepSeconds) description name).result ∧
    (∀ l : Leeway, l.Allows t t' catalog catalog' →
      (compile t catalog (.int t.sleepSeconds) description name).result.map l.hide =
        (compile t' catalog' (.int t'.sleepSeconds) description name).result.map l.hide) ∧
    ∀ defaultDescription maxDescriptionChars,
      compile { t with defaultDescription, maxDescriptionChars } catalog (.int t.sleepSeconds)
          description name =
        compile t catalog (.int t.sleepSeconds) description name := by
  have hall : Leeway.Allows ⟨true, true, true, true, true⟩ t t' catalog catalog' := by
    constructor
    all_goals
      intro h
      cases h
  refine ⟨sameOutcome_of_map (map_hide hall description name), ?_, ?_⟩
  . intro l h
    exact map_hide h description name
  . exact compile_unread t catalog (.int t.sleepSeconds) description name

def pausingText : Json := "when told, wait"

def slowTuning : Tuning :=
  { sleepSeconds := 60 }

theorem compile_confined_of_slowTuning :
    Leeway.Allows ⟨false, false, true, false, false⟩ {} slowTuning ⟨[], "1"⟩ ⟨[], "1"⟩ ∧
    (compile {} ⟨[], "1"⟩ 5 pausingText .null).result.toOption ≠
      (compile slowTuning ⟨[], "1"⟩ 60 pausingText .null).result.toOption ∧
    (compile {} ⟨[], "1"⟩ 5 pausingText .null).result.map
        (Leeway.hide ⟨false, false, true, false, false⟩) =
      (compile slowTuning ⟨[], "1"⟩ 60 pausingText .null).result.map
        (Leeway.hide ⟨false, false, true, false, false⟩) := by
  have h : Leeway.Allows ⟨false, false, true, false, false⟩ {} slowTuning ⟨[], "1"⟩ ⟨[], "1"⟩ := {
    catalog := fun _ _ => rfl
    layoutSpacing := fun _ => rfl
    sleepSeconds := nofun
    routeFieldSource := fun _ => rfl
    naming := fun _ => ⟨rfl, rfl⟩ }
  refine ⟨h, ?_, ?_⟩
  . decide +kernel
  . exact (compile_confined {} slowTuning ⟨[], "1"⟩ ⟨[], "1"⟩ pausingText .null).2.1 _ h

end Compilation

end Automation
