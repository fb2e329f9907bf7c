import Automation.Proofs.Archive.Compose

/-!
This module contains the invariant of archives: every record stands for what its description
compiles to, and the rows, the file and the report that are kept beside it say the same. What is
added later belongs to an id that was never handed out before and thus leaves all earlier records as
they are.
-/

namespace Automation.Archive

open Compilation (documentOf)

def digest (text : String) : String :=
  Sha256.hex text.toUTF8.toList

structure Record.HasWholeTexts (r : Record) : Prop where
  name : ∃ s : String, r.name = .string s
  catalogVersion : r.catalogVersion.isWhole = true
  errors : ∀ e ∈ r.errors, e.isWhole = true

structure KeepsBlueprint (archive : Archive) (t : Tuning) (catalog : Catalog) (r : Record)
    (c : Compilation) : Prop where
  compiled : compiled t catalog r.description r.name = .ok c
  plain : r.HasWholeTexts
  writable : r.artifact.isWritable = true
  fits : Fits c.blueprint
  status : r.status = .composed
  name : r.name = c.blueprint.name
  artifact : r.artifact = documentOf c.blueprint
  errors : r.errors = []
  report : ∃ report, r.report = some report ∧
    c.blueprint.report r.id.text (Resolution.fallbacks c.resolutions) (.string catalog.version) 0 =
      .ok report
  catalogVersion : r.catalogVersion = catalog.version
  moduleCount : r.moduleCount = c.blueprint.nodes.length
  modules : archive.modulesOf r.id = c.blueprint.nodes.mapIdx (moduleRow r.id)
  connections : archive.connectionsOf r.id = c.blueprint.connections.map (connectionRow r.id)
  file : r.file = some (fileOf r.artifact).name
  stored : ∃ f, archive.file? (fileOf r.artifact).name = some f ∧
    digest f.text = digest (fileOf r.artifact).text

structure KeepsRejection (archive : Archive) (t : Tuning) (catalog : Catalog) (r : Record) :
    Prop where
  compiled : compiled t catalog r.description r.name = .error (.invalid r.errors)
  plain : r.HasWholeTexts
  status : r.status = .rejected
  artifact : r.artifact = .null
  report : r.report = none
  catalogVersion : r.catalogVersion = catalog.version
  moduleCount : r.moduleCount = 0
  modules : archive.modulesOf r.id = []
  connections : archive.connectionsOf r.id = []
  file : r.file = none

def Keeps (archive : Archive) (t : Tuning) (source : Except Catalog.Failure Catalog) (r : Record) :
    Prop :=
  ∃ catalog, source = .ok catalog ∧
    ((∃ c, archive.KeepsBlueprint t catalog r c) ∨ archive.KeepsRejection t catalog r)

def WasIssued (archive : Archive) (id : RecordId) : Prop :=
  ∃ k, k ≤ archive.issued ∧ id = .issued k

structure IsConsistent (archive : Archive) (t : Tuning) (source : Except Catalog.Failure Catalog) :
    Prop where
  records : ∀ r ∈ archive.records, archive.WasIssued r.id
  apart : (archive.records.map fun r => r.id).Nodup
  modules : ∀ row ∈ archive.modules, archive.WasIssued row.record
  connections : ∀ row ∈ archive.connections, archive.WasIssued row.record
  files : ∀ f ∈ archive.files, f.name = digest f.text ++ ".json"
  kept : ∀ r ∈ archive.records, archive.Keeps t source r

structure IsNew (archive next : Archive) (id : RecordId) : Prop where
  eq_nextId : id = archive.nextId
  issued : next.WasIssued id

structure Extends (archive next : Archive) : Prop where
  issued : archive.issued ≤ next.issued
  modules : ∃ rows, next.modules = archive.modules ++ rows ∧
    ∀ row ∈ rows, archive.IsNew next row.record
  connections : ∃ rows, next.connections = archive.connections ++ rows ∧
    ∀ row ∈ rows, archive.IsNew next row.record
  files : next.files = archive.files ∨
    ∃ document, next.files = putFile archive.files (fileOf document)

variable {t : Tuning} {source : Except Catalog.Failure Catalog} {catalog : Catalog}
  {archive next : Archive} {r : Record} {id : RecordId}

theorem empty_isConsistent (t : Tuning) (source : Except Catalog.Failure Catalog) :
    empty.IsConsistent t source where
  records := by simp [empty]
  apart := by simp [empty]
  modules := by simp [empty]
  connections := by simp [empty]
  files := by simp [empty]
  kept := by simp [empty]

theorem WasIssued.ne_nextId (h : archive.WasIssued id) : archive.nextId ≠ id := by
  obtain ⟨k, hk, rfl⟩ := h
  simp only [nextId, ne_eq, RecordId.issued.injEq]
  omega

theorem find?_of_mem (h : archive.IsConsistent t source) (hr : r ∈ archive.records) :
    archive.find? r.id = some r := by
  have hapart := h.apart
  unfold find?
  generalize archive.records = records at hr hapart
  induction records with
  | nil => cases hr
  | cons s ss ih =>
    rw [List.map_cons, List.nodup_cons] at hapart
    rcases List.mem_cons.1 hr with rfl | hr
    . simp
    . rw [List.find?_cons_of_neg, ih hr hapart.2]
      intro heq
      apply hapart.1
      rw [eq_of_beq heq]
      exact List.mem_map_of_mem hr

theorem mem_of_find? (h : archive.find? id = some r) : r ∈ archive.records ∧ r.id = id :=
  ⟨List.mem_of_find?_eq_some h, by simpa using List.find?_some h⟩

theorem IsConsistent.plain_of_mem (h : archive.IsConsistent t source) (hr : r ∈ archive.records) :
    r.HasWholeTexts := by
  obtain ⟨catalog, _, ⟨c, hkeeps⟩ | hkeeps⟩ := h.kept r hr
  . exact hkeeps.plain
  . exact hkeeps.plain

theorem filter_append_of_isNew {α : Type} {record : α → RecordId} {before rows : List α}
    (h : archive.WasIssued id) (hids : ∀ row ∈ rows, archive.IsNew next (record row)) :
    (before ++ rows).filter (fun row => record row == id) =
      before.filter (fun row => record row == id) := by
  have hnil : rows.filter (fun row => record row == id) = [] := by
    rw [List.filter_eq_nil_iff]
    intro row hrow
    simpa [(hids row hrow).eq_nextId] using h.ne_nextId
  rw [List.filter_append, hnil, List.append_nil]

namespace Extends

variable (hx : Extends archive next)
include hx

theorem wasIssued (h : archive.WasIssued id) : next.WasIssued id := by
  obtain ⟨k, hk, rfl⟩ := h
  exact ⟨k, Nat.le_trans hk hx.issued, rfl⟩

theorem modulesOf (h : archive.WasIssued id) : next.modulesOf id = archive.modulesOf id := by
  obtain ⟨rows, hrows, hids⟩ := hx.modules
  unfold Archive.modulesOf
  rw [hrows]
  exact filter_append_of_isNew h hids

theorem connectionsOf (h : archive.WasIssued id) :
    next.connectionsOf id = archive.connectionsOf id := by
  obtain ⟨rows, hrows, hids⟩ := hx.connections
  unfold Archive.connectionsOf
  rw [hrows]
  exact filter_append_of_isNew h hids

theorem file? {name : String} {f : File} (h : archive.file? name = some f) :
    next.file? name = some f := by
  unfold Archive.file? at h ⊢
  rcases hx.files with hfiles | ⟨document, hfiles⟩
  . rwa [hfiles]
  . rw [hfiles]
    unfold putFile
    split
    . exact h
    . rw [List.find?_append, h]
      rfl

theorem files_named (h : ∀ f ∈ archive.files, f.name = digest f.text ++ ".json") :
    ∀ f ∈ next.files, f.name = digest f.text ++ ".json" := by
  rcases hx.files with hfiles | ⟨document, hfiles⟩
  . rwa [hfiles]
  . rw [hfiles]
    unfold putFile
    split
    . exact h
    . rw [List.forall_mem_append]
      refine ⟨h, ?_⟩
      intro f hf
      rw [List.mem_singleton.1 hf]
      rfl

theorem keeps (h : archive.Keeps t source r) (hr : archive.WasIssued r.id) :
    next.Keeps t source r := by
  obtain ⟨catalog, hcatalog, hkeeps⟩ := h
  refine ⟨catalog, hcatalog, ?_⟩
  rcases hkeeps with ⟨c, hkeeps⟩ | hkeeps
  -- Rows and files that were added have ids and names of their own.
  . obtain ⟨f, hf, hdigest⟩ := hkeeps.stored
    exact .inl ⟨c, { hkeeps with
      modules := by rw [hx.modulesOf hr, hkeeps.modules]
      connections := by rw [hx.connectionsOf hr, hkeeps.connections]
      stored := ⟨f, hx.file? hf, hdigest⟩ }⟩
  . exact .inr { hkeeps with
      modules := by rw [hx.modulesOf hr, hkeeps.modules]
      connections := by rw [hx.connectionsOf hr, hkeeps.connections] }

theorem isConsistent (h : archive.IsConsistent t source)
    (hrecords : next.records = archive.records ∨ ∃ r, next.records = archive.records ++ [r] ∧
      archive.IsNew next r.id ∧ next.Keeps t source r) : next.IsConsistent t source where
  records := by
    have hold : ∀ r ∈ archive.records, next.WasIssued r.id := by
      intro r hr
      exact hx.wasIssued (h.records r hr)
    rcases hrecords with hrecords | ⟨r, hrecords, hid, _⟩
    . rwa [hrecords]
    . rw [hrecords, List.forall_mem_append]
      refine ⟨hold, ?_⟩
      intro s hs
      rw [List.mem_singleton.1 hs]
      exact hid.issued
  apart := by
    rcases hrecords with hrecords | ⟨r, hrecords, hid, _⟩
    . rw [hrecords]
      exact h.apart
    . rw [hrecords, List.map_append, List.map_singleton, hid.eq_nextId, List.nodup_append]
      refine ⟨h.apart, by simp, ?_⟩
      intro id hmem other hother
      obtain ⟨s, hs, rfl⟩ := List.mem_map.1 hmem
      rw [List.mem_singleton.1 hother]
      exact (h.records s hs).ne_nextId.symm
  modules := by
    obtain ⟨rows, hrows, hids⟩ := hx.modules
    rw [hrows, List.forall_mem_append]
    constructor
    . intro row hrow
      exact hx.wasIssued (h.modules row hrow)
    . intro row hrow
      exact (hids row hrow).issued
  connections := by
    obtain ⟨rows, hrows, hids⟩ := hx.connections
    rw [hrows, List.forall_mem_append]
    constructor
    . intro row hrow
      exact hx.wasIssued (h.connections row hrow)
    . intro row hrow
      exact (hids row hrow).issued
  files := hx.files_named h.files
  kept := by
    have hold : ∀ r ∈ archive.records, next.Keeps t source r := by
      intro r hr
      exact hx.keeps (h.kept r hr) (h.records r hr)
    rcases hrecords with hrecords | ⟨r, hrecords, _, hkeeps⟩
    . rwa [hrecords]
    . rw [hrecords, List.forall_mem_append]
      refine ⟨hold, ?_⟩
      intro s hs
      rw [List.mem_singleton.1 hs]
      exact hkeeps

end Extends

end Automation.Archive
