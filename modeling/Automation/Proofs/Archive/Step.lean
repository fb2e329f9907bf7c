import Automation.Proofs.Archive.Kept

/-!
This module contains the step of the archive: composing keeps it consistent, and adds one record and
its log entry or fails and adds neither.
-/

namespace Automation.Archive

open Compilation (documentOf)

variable {t : Tuning} {source : Except Catalog.Failure Catalog} {catalog : Catalog}
  {archive next : Archive} {r : Record} {description : String} {name : Json}

theorem addRejected_extends (archive : Archive) (name : Json) (description : String)
    (errors : List Text) (catalogVersion : Text) :
    Extends archive (archive.addRejected name description errors catalogVersion).1 where
  issued := Nat.le_succ _
  modules := ⟨[], by simp [addRejected], by simp⟩
  connections := ⟨[], by simp [addRejected], by simp⟩
  files := .inl rfl

theorem addRejected_isNew (archive : Archive) (name : Json) (description : String)
    (errors : List Text) (catalogVersion : Text) :
    IsNew archive (archive.addRejected name description errors catalogVersion).1 archive.nextId :=
  ⟨rfl, archive.issued + 1, Nat.le_refl _, rfl⟩

theorem addComposed_isNew (archive : Archive) (description : String) (b : Blueprint)
    (artifact : Json) (report : Report) (catalogVersion : Text) :
    IsNew archive (archive.addComposed description b artifact report catalogVersion).1
      archive.nextId :=
  ⟨rfl, archive.issued + 1, Nat.le_refl _, rfl⟩

theorem addComposed_extends (archive : Archive) (description : String) (b : Blueprint)
    (artifact : Json) (report : Report) (catalogVersion : Text) :
    Extends archive (archive.addComposed description b artifact report catalogVersion).1 where
  issued := Nat.le_succ _
  modules := by
    refine ⟨_, rfl, ?_⟩
    intro row hrow
    obtain ⟨k, hk, rfl⟩ := List.mem_mapIdx.1 hrow
    apply addComposed_isNew
  connections := by
    refine ⟨_, rfl, ?_⟩
    intro row hrow
    obtain ⟨e, he, rfl⟩ := List.mem_map.1 hrow
    apply addComposed_isNew
  files := .inr ⟨artifact, rfl⟩

theorem keepFile_extends (archive : Archive) (artifact : Json) :
    Extends archive (archive.keepFile artifact) where
  issued := Nat.le_refl _
  modules := ⟨[], by simp [keepFile], by simp⟩
  connections := ⟨[], by simp [keepFile], by simp⟩
  files := .inr ⟨artifact, rfl⟩

theorem modulesOf_nextId (h : archive.IsConsistent t source) :
    archive.modulesOf archive.nextId = [] := by
  unfold modulesOf
  rw [List.filter_eq_nil_iff]
  intro row hrow
  simpa using (h.modules row hrow).ne_nextId.symm

theorem connectionsOf_nextId (h : archive.IsConsistent t source) :
    archive.connectionsOf archive.nextId = [] := by
  unfold connectionsOf
  rw [List.filter_eq_nil_iff]
  intro row hrow
  simpa using (h.connections row hrow).ne_nextId.symm

theorem find?_putFile {files : List File} (h : ∀ f ∈ files, f.name = digest f.text ++ ".json")
    (document : Json) : ∃ f,
      (putFile files (fileOf document)).find? (·.name == (fileOf document).name) = some f ∧
        digest f.text = digest (fileOf document).text := by
  unfold putFile
  split
  . rename_i hany
    obtain ⟨g, hg, hname⟩ := List.any_eq_true.1 hany
    have hsome : (files.find? (·.name == (fileOf document).name)).isSome = true := by
      rw [List.find?_isSome]
      exact ⟨g, hg, hname⟩
    obtain ⟨f, hf⟩ := Option.isSome_iff_exists.1 hsome
    refine ⟨f, hf, ?_⟩
    have hnames : f.name = (fileOf document).name := by
      simpa using List.find?_some hf
    rw [h f (List.mem_of_find?_eq_some hf)] at hnames
    exact (String.append_left_inj ".json").1 hnames
  . rename_i hany
    refine ⟨fileOf document, ?_, rfl⟩
    rw [List.find?_append, List.find?_eq_none.2]
    . simp
    . intro f hf hname
      apply hany
      rw [List.any_eq_true]
      exact ⟨f, hf, hname⟩

def CatalogFits (catalog : Catalog) : Prop :=
  ∀ e ∈ catalog.entries, -(twoTo 63 : Int) ≤ e.version ∧ e.version < twoTo 63

theorem CatalogFits.versionOf (h : CatalogFits catalog) (moduleType : Text) :
    -(twoTo 63 : Int) ≤ catalog.versionOf moduleType ∧ catalog.versionOf moduleType < twoTo 63 := by
  unfold Catalog.versionOf
  split
  . next entry hfind => exact h entry (List.mem_of_find?_eq_some hfind)
  . decide

theorem fits_of_compiled {c : Compilation} (h : CatalogFits catalog)
    (hcompiled : compiled t catalog description name = .ok c) : Fits c.blueprint := by
  intro n hn version hversion
  obtain ⟨moduleType, heq⟩ := Compilation.version_of_compileText hcompiled n hn
  rw [hversion, Json.int.injEq] at heq
  rw [heq]
  exact h.versionOf moduleType

def IsAsked (name : Json) : Prop :=
  name = .null ∨ ∃ text, name = .string text

theorem blueprintName_of_isAsked (h : IsAsked name) (t : Tuning) (description : String) :
    ∃ text, Compilation.blueprintName t description name = .string text := by
  unfold Compilation.blueprintName Json.orElse
  rcases h with rfl | ⟨text, rfl⟩
  . exact ⟨_, rfl⟩
  . split
    . exact ⟨_, rfl⟩
    . exact ⟨_, rfl⟩

theorem name_of_isWritable {artifact : Json} {catalogVersion : Text} (hname : IsAsked name)
    (h : IsWritable (Compilation.blueprintName t description name) artifact catalogVersion) :
    ∃ s : String, Compilation.blueprintName t description name = .string s := by
  obtain ⟨text, htext⟩ := blueprintName_of_isAsked hname t description
  have hwhole := h.name
  rw [htext] at hwhole
  obtain ⟨s, rfl⟩ := Text.eq_whole_of_isWhole hwhole
  exact ⟨s, htext⟩

theorem addRejected_plain {errors : List Text} (hname : IsAsked name)
    (hcompiled : compiled t catalog description name = .error (.invalid errors))
    (hwritable : IsWritable (Compilation.blueprintName t description name) .null catalog.version) :
    (archive.addRejected (Compilation.blueprintName t description name) description errors
      catalog.version).2.HasWholeTexts where
  name := name_of_isWritable hname hwritable
  catalogVersion := hwritable.catalogVersion
  errors := by
    change ∀ e ∈ errors, _
    rw [Compilation.errors_of_compileText hcompiled]
    intro e he
    rw [List.mem_singleton.1 he]
    rfl

theorem addRejected_keeps {errors : List Text} (h : archive.IsConsistent t source)
    (hcatalog : source = .ok catalog) (hname : IsAsked name)
    (hcompiled : compiled t catalog description name = .error (.invalid errors))
    (hwritable : IsWritable (Compilation.blueprintName t description name) .null catalog.version) :
    (archive.addRejected (Compilation.blueprintName t description name) description errors
      catalog.version).1.Keeps t source
        (archive.addRejected (Compilation.blueprintName t description name) description errors
          catalog.version).2 := by
  refine ⟨catalog, hcatalog, .inr ?_⟩
  exact {
    compiled :=
      (Compilation.compileText_blueprintName t catalog _ description name).trans hcompiled
    plain := addRejected_plain hname hcompiled hwritable
    status := rfl
    artifact := rfl
    report := rfl
    catalogVersion := rfl
    moduleCount := rfl
    modules := modulesOf_nextId h
    connections := connectionsOf_nextId h
    file := rfl }

theorem name_eq_blueprintName {c : Compilation}
    (hcompiled : compiled t catalog description name = .ok c) :
    c.blueprint.name = Compilation.blueprintName t description name := by
  obtain ⟨_, _, _, hblueprint⟩ := Compilation.eq_of_compileText hcompiled
  rw [hblueprint]
  rfl

structure Adds (archive next : Archive) (r : Record) : Prop where
  records : next.records = archive.records ++ [r]
  audits : next.audits = archive.audits ++ [{
    principal := "api"
    action := if r.status = .composed then "blueprint.composed" else "blueprint.rejected"
    oldValue := .null
    newValue := .object [("blueprintId", .string r.id.text), ("status", .string r.status.name)] }]

structure AddsNothing (archive next : Archive) : Prop where
  records : next.records = archive.records
  audits : next.audits = archive.audits

theorem file?_addComposed (archive : Archive) (description : String) (b : Blueprint)
    (artifact : Json) (report : Report) (catalogVersion : Text)
    (h : ∀ f ∈ archive.files, f.name = digest f.text ++ ".json") : ∃ f,
    (archive.addComposed description b artifact report catalogVersion).1.file?
      (fileOf artifact).name = some f ∧ digest f.text = digest (fileOf artifact).text :=
  find?_putFile h artifact

theorem addComposed_plain {c : Compilation} (archive : Archive) (report : Report)
    (hname : IsAsked name) (hcompiled : compiled t catalog description name = .ok c)
    (hwritable : IsWritable c.blueprint.name (documentOf c.blueprint) catalog.version) :
    (archive.addComposed description c.blueprint (documentOf c.blueprint) report
      catalog.version).2.HasWholeTexts where
  name := by
    have htitle := name_eq_blueprintName hcompiled
    rw [htitle] at hwritable
    obtain ⟨s, hs⟩ := name_of_isWritable hname hwritable
    exact ⟨s, htitle.trans hs⟩
  catalogVersion := hwritable.catalogVersion
  errors := List.forall_mem_nil _

theorem addComposed_keeps {c : Compilation} {report : Report} (h : archive.IsConsistent t source)
    (hcatalog : source = .ok catalog) (hname : IsAsked name)
    (hcompiled : compiled t catalog description name = .ok c)
    (hreport : c.blueprint.report archive.nextId.text (Resolution.fallbacks c.resolutions)
      (.string catalog.version) 0 = .ok report)
    (hwritable : IsWritable c.blueprint.name (documentOf c.blueprint) catalog.version)
    (hfits : Fits c.blueprint) :
    (archive.addComposed description c.blueprint (documentOf c.blueprint) report
      catalog.version).1.Keeps t source
        (archive.addComposed description c.blueprint (documentOf c.blueprint) report
          catalog.version).2 := by
  refine ⟨catalog, hcatalog, .inl ⟨c, ?_⟩⟩
  exact {
    compiled := by
      change compiled t catalog description c.blueprint.name = .ok c
      rw [name_eq_blueprintName hcompiled]
      exact (Compilation.compileText_blueprintName t catalog _ description name).trans hcompiled
    plain := addComposed_plain archive report hname hcompiled hwritable
    writable := hwritable.artifact
    fits := hfits
    status := rfl
    name := rfl
    artifact := rfl
    errors := rfl
    report := ⟨report, rfl, hreport⟩
    catalogVersion := rfl
    moduleCount := rfl
    modules := by
      have hmodules := modulesOf_nextId h
      unfold modulesOf addComposed at *
      rw [List.filter_append, hmodules, List.nil_append, List.filter_eq_self]
      intro row hrow
      obtain ⟨k, hk, rfl⟩ := List.mem_mapIdx.1 hrow
      simp [moduleRow]
    connections := by
      have hconnections := connectionsOf_nextId h
      unfold connectionsOf addComposed at *
      rw [List.filter_append, hconnections, List.nil_append, List.filter_eq_self]
      intro row hrow
      obtain ⟨e, he, rfl⟩ := List.mem_map.1 hrow
      simp [connectionRow]
    file := rfl
    stored := find?_putFile h.files (documentOf c.blueprint) }

structure Addition (archive next : Archive) (t : Tuning) (catalog : Catalog) (text : String)
    (title : Json) (r : Record) : Prop where
  id : r.id = archive.nextId
  description : r.description = text
  name : r.name = Compilation.blueprintName t text title
  plain : r.HasWholeTexts
  adds : Adds archive next r
  composed : r.status = .composed → ∃ c, compiled t catalog text title = .ok c ∧ Fits c.blueprint
  rejected : r.status = .rejected → compiled t catalog text title = .error (.invalid r.errors)

theorem addRejected_spec {errors : List Text} (h : archive.IsConsistent t source)
    (hcatalog : source = .ok catalog) (hname : IsAsked name)
    (hcompiled : compiled t catalog description name = .error (.invalid errors))
    (hwritable : IsWritable (Compilation.blueprintName t description name) .null catalog.version)
    {s : Archive × Record}
    (hs : archive.addRejected (Compilation.blueprintName t description name) description errors
      catalog.version = s) :
    s.1.IsConsistent t source ∧ Addition archive s.1 t catalog description name s.2 := by
  subst hs
  have hkeeps := addRejected_keeps h hcatalog hname hcompiled hwritable
  have hextends := addRejected_extends archive (Compilation.blueprintName t description name)
    description errors catalog.version
  refine ⟨hextends.isConsistent h (.inr ⟨_, rfl, addRejected_isNew .., hkeeps⟩), ?_⟩
  exact {
    id := rfl
    description := rfl
    name := rfl
    plain := addRejected_plain hname hcompiled hwritable
    adds := ⟨rfl, rfl⟩
    composed := nofun
    rejected := fun _ => hcompiled }

theorem addComposed_spec {c : Compilation} {report : Report} (h : archive.IsConsistent t source)
    (hcatalog : source = .ok catalog) (hname : IsAsked name)
    (hcompiled : compiled t catalog description name = .ok c)
    (hreport : c.blueprint.report archive.nextId.text (Resolution.fallbacks c.resolutions)
      (.string catalog.version) 0 = .ok report)
    (hwritable : IsWritable c.blueprint.name (documentOf c.blueprint) catalog.version)
    (hfits : Fits c.blueprint) {s : Archive × Record}
    (hs : archive.addComposed description c.blueprint (documentOf c.blueprint) report
      catalog.version = s) :
    s.1.IsConsistent t source ∧ Addition archive s.1 t catalog description name s.2 := by
  subst hs
  have hkeeps := addComposed_keeps h hcatalog hname hcompiled hreport hwritable hfits
  have hextends := addComposed_extends archive description c.blueprint (documentOf c.blueprint)
    report catalog.version
  refine ⟨hextends.isConsistent h (.inr ⟨_, rfl, addComposed_isNew .., hkeeps⟩), ?_⟩
  exact {
    id := rfl
    description := rfl
    name := name_eq_blueprintName hcompiled
    plain := addComposed_plain archive report hname hcompiled hwritable
    adds := ⟨rfl, rfl⟩
    composed := fun _ => ⟨c, hcompiled, hfits⟩
    rejected := nofun }

theorem compose_spec (h : archive.IsConsistent t source) (hcatalog : source = .ok catalog)
    (hname : IsAsked name)
    (hcompose : archive.compose t catalog description name = (next, .ok r)) :
    next.IsConsistent t source ∧ Addition archive next t catalog description name r := by
  have hcomposes := compose_composes archive t catalog description name
  rw [hcompose] at hcomposes
  generalize hresult : (next, Except.ok r) = result at hcomposes
  cases hcomposes with
  | failed f => cases hresult
  | unfitting c => cases hresult
  | rejected errors hcompiled hwritable =>
    cases hresult
    exact addRejected_spec h hcatalog hname hcompiled hwritable rfl
  | composed c report hcompiled hreport hwritable hfits =>
    cases hresult
    exact addComposed_spec h hcatalog hname hcompiled hreport hwritable hfits rfl

theorem compose_failed_spec {f : Compilation.Failure} (h : archive.IsConsistent t source)
    (hcompose : archive.compose t catalog description name = (next, .error f)) :
    next.IsConsistent t source ∧ AddsNothing archive next := by
  have hcomposes := compose_composes archive t catalog description name
  rw [hcompose] at hcomposes
  generalize hresult : (next, Except.error f) = result at hcomposes
  cases hcomposes with
  | failed f =>
    cases hresult
    exact ⟨h, rfl, rfl⟩
  | unfitting c =>
    cases hresult
    exact ⟨(keepFile_extends ..).isConsistent h (.inl rfl), rfl, rfl⟩
  | rejected errors => cases hresult
  | composed c report => cases hresult

end Automation.Archive
