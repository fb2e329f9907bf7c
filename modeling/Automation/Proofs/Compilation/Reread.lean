import Automation.Proofs.Compilation.RoundTrip
import Automation.Proofs.Compilation.Artifact

/-!
This module contains the documents of compilations as they are read again. Lone halves that stand
beside each other in the settings are read as pairs, so that a document that is read is the one to
which the description comes with settings that have been read before.
-/

namespace Automation

def Tuning.paired (t : Tuning) : Tuning :=
  { t with
    defaultName := t.defaultName.paired
    routeFieldSource := t.routeFieldSource.paired }

namespace Compilation

theorem paired_fieldSlot (source : Text) (path : String) :
    (Route.fieldSlot source path).paired = Route.fieldSlot source.paired path := by
  unfold Route.fieldSlot
  rw [Text.paired_append_whole, Text.paired_append_whole, Text.paired_append_whole,
    Text.paired_whole_append]

theorem paired_ofCondition (source : Text) (position : Nat) (condition : String) :
    (Route.ofCondition source position condition).toJson.paired =
      (Route.ofCondition source.paired position condition).toJson := by
  obtain ⟨path, operator, value, hfilter⟩ := exists_filterOf (Route.labelAt position) condition
  rw [Route.ofCondition, Route.ofCondition, hfilter, hfilter, ← paired_fieldSlot]
  simp [Route.toJson, RouteFilter.toJson, Json.paired, Json.pairedItems, Json.pairedFields]

variable {t : Tuning} {catalog : Catalog} {description : String} {name : Json} {e : Extraction}
  {rs : List Resolution}

theorem paired_routesOf (t : Tuning) (e : Extraction) :
    (routesOf t e).map (fun r => r.toJson.paired) = (routesOf t.paired e).map Route.toJson := by
  apply List.ext_getElem
  . simp [routesOf, Route.ofConditions]
  . intro i h₁ h₂
    simp only [routesOf, Route.ofConditions, List.getElem_map, List.getElem_mapIdx]
    exact paired_ofCondition ..

theorem paired_routerNode (spacing : Int) (before : Nat) (version : Int) (t : Tuning)
    (e : Extraction) : (routerNode spacing before version (routesOf t e)).toJson.paired =
      (routerNode spacing before version (routesOf t.paired e)).toJson := by
  have hroutes : Json.pairedItems ((routesOf t e).map Route.toJson) =
      (routesOf t.paired e).map Route.toJson := by
    rw [Json.pairedItems_eq, List.map_map, ← paired_routesOf]
    rfl
  simp [Node.toJson, Node.toFields, routerNode, placeAfter, optionalField, Json.paired,
    Json.pairedFields, hroutes]

theorem paired_nodesOf (hrs : ∀ r ∈ rs, r.IsTidy) :
    (nodesOf t catalog e rs).map (fun n => n.toJson.paired) =
      (nodesOf t.paired catalog e rs).map Node.toJson := by
  have hresolved : (rs.mapIdx (resolvedNode t.layoutSpacing)).map (fun n => n.toJson.paired) =
      (rs.mapIdx (resolvedNode t.layoutSpacing)).map Node.toJson := by
    apply List.map_congr_left
    intro n hn
    obtain ⟨k, hk, rfl⟩ := List.mem_mapIdx.1 hn
    exact Json.paired_of_isTidy (isTidy_resolvedNode (hrs _ (List.getElem_mem _)) ..)
  unfold nodesOf
  rw [List.map_append, List.map_append, hresolved]
  split
  . rfl
  . rw [List.map_singleton, paired_routerNode]
    rfl

theorem length_nodesOf_paired (t : Tuning) (catalog : Catalog) (e : Extraction)
    (rs : List Resolution) : (nodesOf t.paired catalog e rs).length = (nodesOf t catalog e rs).length := by
  unfold nodesOf
  split
  . rfl
  . rw [List.length_append, List.length_append]
    rfl

theorem pairedItems_chain (n : Nat) : Json.pairedItems ((chain n).map Connection.toJson) =
    (chain n).map Connection.toJson := by
  rw [Json.pairedItems_eq, List.map_map]
  apply List.map_congr_left
  intro c hc
  exact Json.paired_of_isTidy (isLegible_chain n c hc)

def IsPlainName (name : Json) : Prop :=
  name = .null ∨ ∃ s : String, name = .string s

theorem paired_blueprintName (h : IsPlainName name) (t : Tuning) (description : String) :
    (blueprintName t description name).paired = blueprintName t.paired description name := by
  have hderived (limit : Option Int) : (Description.deriveName description limit t.defaultName).paired =
      Description.deriveName description limit t.paired.defaultName := by
    unfold Description.deriveName
    dsimp only
    split
    . rfl
    . exact Text.paired_whole _
  unfold blueprintName Json.orElse
  split
  . exact congrArg Json.string (hderived _)
  . rcases h with rfl | ⟨s, rfl⟩
    . rfl
    . exact congrArg Json.string (Text.paired_whole s)

theorem paired_documentOf (hname : IsPlainName name) (hblank : Description.isBlank description = false)
    (hrs : ∀ r ∈ rs, r.IsTidy) :
    (documentOf (blueprintOf t catalog description name e rs)).paired =
      documentOf (blueprintOf t.paired catalog description name e rs) := by
  have hdescription (t : Tuning) := blueprintDescription_of_not_isBlank hblank t
  have hnodes : Json.pairedItems ((nodesOf t catalog e rs).map Node.toJson) =
      (nodesOf t.paired catalog e rs).map Node.toJson := by
    rw [Json.pairedItems_eq, List.map_map, ← paired_nodesOf hrs]
    rfl
  unfold documentOf blueprintOf schedulingOf
  rw [length_nodesOf_paired, hdescription t, hdescription t.paired, ← paired_blueprintName hname]
  split
  . simp [optionalField, Json.paired, Json.pairedFields, hnodes, pairedItems_chain]
  . simp [optionalField, Json.paired, Json.pairedFields, hnodes, pairedItems_chain]

theorem ofDocument_documentOf {sleepSeconds : Int} {c : Compilation}
    (hc : (compileText t catalog (.int sleepSeconds) description name).result = .ok c) :
    Blueprint.ofDocument (documentOf c.blueprint) = .ok c.blueprint := by
  obtain ⟨document, hdocument, hread⟩ := Blueprint.ofDocument_toJson (isReadable_of_compileText hc)
  rw [toJson_of_compileText hc, Except.ok.injEq] at hdocument
  rwa [hdocument]

/-- The document is read as it is, where no halves of the source of routes make a pair. -/
theorem paired_document {sleepSeconds : Int} {c : Compilation}
    (hc : (compileText t catalog (.int sleepSeconds) description name).result = .ok c)
    (hsource : t.routeFieldSource.paired = t.routeFieldSource) {title : String}
    (htitle : c.blueprint.name = .string title) :
    (documentOf c.blueprint).paired = documentOf c.blueprint := by
  have hadmits : Admits (fun text => text.paired == text) t.routeFieldSource := {
    whole := fun s => beq_iff_eq.2 (Text.paired_whole s)
    slot := fun path => by rw [beq_iff_eq, paired_fieldSlot, hsource] }
  apply Json.paired_of_isLegible (fun _ => eq_of_beq)
  exact isLegible_of_compileText hc hadmits ⟨htitle, hadmits.whole title⟩

/-- What is read of the document is what the description comes to with settings that were read. -/
theorem exists_compileText_paired {sleepSeconds : Int} {c : Compilation} (hname : IsPlainName name)
    (hc : (compileText t catalog (.int sleepSeconds) description name).result = .ok c) :
    ∃ d, (compileText t.paired catalog (.int sleepSeconds) description name).result = .ok d ∧
      documentOf d.blueprint = (documentOf c.blueprint).paired ∧
      d.blueprint.name = c.blueprint.name.paired := by
  obtain ⟨hextract, hblank, hresolutions, hblueprint⟩ := eq_of_compileText hc
  refine ⟨_, compileText_eq hextract hblank t.paired catalog (.int sleepSeconds) name, ?_, ?_⟩
  . rw [hblueprint, paired_documentOf hname (not_isBlank_of_extract hextract hblank)]
    . rw [hresolutions]
    . rw [hresolutions]
      apply isTidy_resolve
  . rw [hblueprint]
    exact (paired_blueprintName hname t description).symm

end Compilation

end Automation
