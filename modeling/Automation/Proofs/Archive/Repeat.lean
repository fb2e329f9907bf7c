import Automation.Proofs.Archive.Step

/-!
This module contains what becomes of a record whose description is composed once more under its
name: nothing that was checked for it can fail now, and the record that is added says what it says.
-/

namespace Automation.Archive

open Compilation (documentOf blueprintName)

variable {t : Tuning} {source : Except Catalog.Failure Catalog} {catalog : Catalog}
  {archive next : Archive} {r s : Record} {c : Compilation} {description : String} {name : Json}

/-- What was checked for the records and still holds of them. -/
structure IsRepeatable (archive : Archive) (t : Tuning) : Prop where
  short : ∀ r ∈ archive.records, (r.description.length : Int) ≤ t.maxDescriptionChars
  named : ∀ r ∈ archive.records, blueprintName t r.description r.name = r.name

theorem empty_isRepeatable (t : Tuning) : empty.IsRepeatable t where
  short := by simp [empty]
  named := by simp [empty]

namespace IsRepeatable

theorem append (h : archive.IsRepeatable t) (hrecords : next.records = archive.records ++ [r])
    (hshort : (r.description.length : Int) ≤ t.maxDescriptionChars)
    (hnamed : blueprintName t r.description r.name = r.name) : next.IsRepeatable t where
  short := by
    rw [hrecords, List.forall_mem_append, List.forall_mem_singleton]
    exact ⟨h.short, hshort⟩
  named := by
    rw [hrecords, List.forall_mem_append, List.forall_mem_singleton]
    exact ⟨h.named, hnamed⟩

theorem addRejected (h : archive.IsRepeatable t)
    (hshort : (description.length : Int) ≤ t.maxDescriptionChars) (errors : List Text)
    (catalogVersion : Text) {added : Archive × Record}
    (hadded : archive.addRejected (blueprintName t description name) description errors
      catalogVersion = added) : added.1.IsRepeatable t := by
  subst hadded
  refine h.append rfl hshort ?_
  apply Compilation.blueprintName_blueprintName

theorem addComposed (h : archive.IsRepeatable t)
    (hshort : (description.length : Int) ≤ t.maxDescriptionChars)
    (hcompiled : compiled t catalog description name = .ok c) (artifact : Json) (report : Report)
    (catalogVersion : Text) {added : Archive × Record}
    (hadded : archive.addComposed description c.blueprint artifact report catalogVersion = added) :
    added.1.IsRepeatable t := by
  have hnamed : blueprintName t description c.blueprint.name = c.blueprint.name := by
    rw [name_eq_blueprintName hcompiled, Compilation.blueprintName_blueprintName]
  subst hadded
  exact h.append rfl hshort hnamed

theorem compose (h : archive.IsRepeatable t)
    (hshort : (description.length : Int) ≤ t.maxDescriptionChars) :
    (archive.compose t catalog description name).1.IsRepeatable t := by
  have hcomposes := compose_composes archive t catalog description name
  generalize archive.compose t catalog description name = result at hcomposes
  cases hcomposes with
  | failed f => exact h
  | unfitting c => exact ⟨h.short, h.named⟩
  | rejected errors => exact h.addRejected hshort errors catalog.version rfl
  | composed c report hcompiled => exact h.addComposed hshort hcompiled _ report catalog.version rfl

end IsRepeatable

theorem Record.HasWholeTexts.isWritable (h : r.HasWholeTexts) {artifact : Json}
    (hartifact : artifact.isWritable = true) : IsWritable r.name artifact r.catalogVersion where
  name := by
    obtain ⟨s, hs⟩ := h.name
    rw [hs]
    rfl
  artifact := hartifact
  catalogVersion := h.catalogVersion

theorem putFile_of_find? {files : List File} {file f : File}
    (h : files.find? (·.name == file.name) = some f) : putFile files file = files := by
  unfold putFile
  rw [if_pos]
  rw [List.any_eq_true]
  exact ⟨f, List.mem_of_find?_eq_some h, by simpa using List.find?_some h⟩

structure ComposesAgain (archive : Archive) (r : Record) (added : Archive × Record) : Prop where
  records : added.1.records = archive.records ++ [added.2]
  files : added.1.files = archive.files
  id : added.2.id = archive.nextId
  description : added.2.description = r.description
  name : added.2.name = r.name

theorem compose_of_keepsBlueprint (hkeeps : archive.KeepsBlueprint t catalog r c) :
    ∃ added, archive.compose t catalog r.description r.name = added.map id .ok ∧
      archive.ComposesAgain r added := by
  obtain ⟨f, hf, -⟩ := hkeeps.stored
  have hwritable := hkeeps.plain.isWritable hkeeps.writable
  rw [hkeeps.name, hkeeps.artifact, hkeeps.catalogVersion] at hwritable
  rw [hkeeps.artifact] at hf
  obtain ⟨report, -, hcompose⟩ :=
    compose_of_fits archive hkeeps.compiled hwritable hkeeps.fits
  exact ⟨_, hcompose, rfl, putFile_of_find? hf, rfl, rfl, hkeeps.name.symm⟩

theorem compose_of_keepsRejection (h : archive.KeepsRejection t catalog r)
    (hnamed : blueprintName t r.description r.name = r.name) :
    ∃ added, archive.compose t catalog r.description r.name = added.map id .ok ∧
      archive.ComposesAgain r added := by
  have hcompiled := h.compiled
  have hwritable : IsWritable r.name .null r.catalogVersion := h.plain.isWritable rfl
  have hcheck := checkWritable_of_isWritable hwritable
  rw [h.catalogVersion] at hcheck
  refine ⟨archive.addRejected r.name r.description r.errors catalog.version, ?_, ?_⟩
  . unfold compose
    unfold compiled at hcompiled
    rw [hcompiled]
    dsimp only
    rw [hnamed, keepRejected, hcheck]
    rfl
  . exact ⟨rfl, rfl, rfl, rfl, rfl⟩

theorem compose_again (h : archive.IsRepeatable t) (hr : r ∈ archive.records)
    (hkeeps : archive.Keeps t source r) :
    ∃ catalog added, source = .ok catalog ∧
      archive.compose t catalog r.description r.name = added.map id .ok ∧
      archive.ComposesAgain r added := by
  obtain ⟨catalog, hcatalog, ⟨c, hkeeps⟩ | hkeeps⟩ := hkeeps
  . obtain ⟨added, hadded⟩ := compose_of_keepsBlueprint hkeeps
    exact ⟨catalog, added, hcatalog, hadded⟩
  . obtain ⟨added, hadded⟩ := compose_of_keepsRejection hkeeps (h.named r hr)
    exact ⟨catalog, added, hcatalog, hadded⟩

structure Repeats (archive next : Archive) (r s : Record) : Prop where
  record : s = { r with
    id := s.id
    report := r.report.map fun report => { report with blueprintId := s.id.text } }
  modules : next.modulesOf s.id = (archive.modulesOf r.id).map fun row => { row with record := s.id }
  connections : next.connectionsOf s.id =
    (archive.connectionsOf r.id).map fun row => { row with record := s.id }

theorem Record.eq_of_fields (hname : s.name = r.name) (hdescription : s.description = r.description)
    (hstatus : s.status = r.status) (hartifact : s.artifact = r.artifact)
    (herrors : s.errors = r.errors) (hfile : s.file = r.file)
    (hcatalogVersion : s.catalogVersion = r.catalogVersion)
    (hmoduleCount : s.moduleCount = r.moduleCount) :
    s = { r with id := s.id, report := s.report } := by
  rw [← hname, ← hdescription, ← hstatus, ← hartifact, ← herrors, ← hfile, ← hcatalogVersion,
    ← hmoduleCount]

theorem repeats_of_keepsBlueprint (hr : archive.KeepsBlueprint t catalog r c)
    (hs : next.KeepsBlueprint t catalog s c) (hdescription : s.description = r.description)
    (hname : s.name = r.name) : archive.Repeats next r s where
  record := by
    obtain ⟨report, hreport, heq⟩ := hr.report
    obtain ⟨other, hother, heq'⟩ := hs.report
    have hartifact : s.artifact = r.artifact := hs.artifact.trans hr.artifact.symm
    rw [c.blueprint.report_renamed r.id.text, heq, Except.map, Except.ok.injEq] at heq'
    rw [hreport, Option.map_some, heq', ← hother]
    apply Record.eq_of_fields hname hdescription
    . rw [hs.status, hr.status]
    . exact hartifact
    . rw [hs.errors, hr.errors]
    . rw [hs.file, hr.file, hartifact]
    . rw [hs.catalogVersion, hr.catalogVersion]
    . rw [hs.moduleCount, hr.moduleCount]
  modules := by
    rw [hs.modules, hr.modules]
    apply List.ext_getElem
    . simp
    . intro k h₁ h₂
      simp [moduleRow]
  connections := by
    rw [hs.connections, hr.connections, List.map_map]
    rfl

theorem repeats_of_keepsRejection (hr : archive.KeepsRejection t catalog r)
    (hs : next.KeepsRejection t catalog s) (hdescription : s.description = r.description)
    (hname : s.name = r.name) : archive.Repeats next r s where
  record := by
    rw [hr.report, Option.map_none, ← hs.report]
    apply Record.eq_of_fields hname hdescription
    . rw [hs.status, hr.status]
    . rw [hs.artifact, hr.artifact]
    . have hcompiled := hs.compiled
      rw [hdescription, hname, hr.compiled] at hcompiled
      injection hcompiled with herrors
      injection herrors with herrors
      exact herrors.symm
    . rw [hs.file, hr.file]
    . rw [hs.catalogVersion, hr.catalogVersion]
    . rw [hs.moduleCount, hr.moduleCount]
  modules := by
    rw [hs.modules, hr.modules]
    rfl
  connections := by
    rw [hs.connections, hr.connections]
    rfl

/-- What a record says is settled by its description and its name, in whatever archive it
is kept. -/
theorem repeats_of_keeps (hr : archive.Keeps t source r) (hs : next.Keeps t source s)
    (hdescription : s.description = r.description) (hname : s.name = r.name) :
    archive.Repeats next r s := by
  obtain ⟨catalog, hcatalog, hr⟩ := hr
  obtain ⟨catalog', hcatalog', hs⟩ := hs
  rw [hcatalog, Except.ok.injEq] at hcatalog'
  subst hcatalog'
  have hsame : compiled t catalog s.description s.name = compiled t catalog r.description r.name := by
    rw [hdescription, hname]
  rcases hr with ⟨c, hr⟩ | hr
  . rw [hr.compiled] at hsame
    rcases hs with ⟨c', hs⟩ | hs
    . rw [hs.compiled, Except.ok.injEq] at hsame
      subst hsame
      exact repeats_of_keepsBlueprint hr hs hdescription hname
    . rw [hs.compiled] at hsame
      cases hsame
  . rw [hr.compiled] at hsame
    rcases hs with ⟨c', hs⟩ | hs
    . rw [hs.compiled] at hsame
      cases hsame
    . exact repeats_of_keepsRejection hr hs hdescription hname

end Automation.Archive
