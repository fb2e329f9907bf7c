import Automation.Archive
import Automation.Proofs.Blueprint.Report
import Automation.Proofs.Compilation.Artifact

/-!
This module contains what composing a description does to an archive: a blueprint is added with all
that belongs to it, a rejection is added without, and nothing is added where a record or a row
cannot be written.
-/

namespace Automation.Archive

open Compilation (documentOf toJson_of_compileText moduleType_of_compileText)

variable {t : Tuning} {catalog : Catalog} {description : String} {name : Json} {c : Compilation}
  {archive : Archive}

abbrev compiled (t : Tuning) (catalog : Catalog) (description : String) (name : Json) :
    Except Compilation.Failure Compilation :=
  (compileText t catalog (.int t.sleepSeconds) description name).result

structure IsWritable (name artifact : Json) (catalogVersion : Text) : Prop where
  name : name.text.isWhole = true
  artifact : artifact.isWritable = true
  catalogVersion : catalogVersion.isWhole = true

theorem encoded_cases (text : Text) :
    (∃ f, text.encoded = .error f) ∨ text.isWhole = true ∧ ∃ s, text.encoded = .ok s := by
  cases text with
  | whole s => exact .inr ⟨rfl, s, rfl⟩
  | broken s h rest => exact .inl ⟨_, rfl⟩

theorem checkWritable_cases (name artifact : Json) (catalogVersion : Text) :
    (∃ f, checkWritable name artifact catalogVersion = .error f) ∨
      checkWritable name artifact catalogVersion = .ok () ∧
        IsWritable name artifact catalogVersion := by
  unfold checkWritable
  cases hartifact : artifact.isWritable with
  | false => exact .inl ⟨_, rfl⟩
  | true =>
    rcases encoded_cases name.text with ⟨f, hf⟩ | ⟨hname, s, hs⟩
    . exact .inl ⟨f, by rw [hf]; rfl⟩
    . rcases encoded_cases catalogVersion with ⟨f, hf⟩ | ⟨hversion, v, hv⟩
      . exact .inl ⟨f, by rw [hs, hf]; rfl⟩
      . exact .inr ⟨by rw [hs, hv]; rfl, hname, hartifact, hversion⟩

theorem checkWritable_of_isWritable {name artifact : Json} {catalogVersion : Text}
    (h : IsWritable name artifact catalogVersion) :
    checkWritable name artifact catalogVersion = .ok () := by
  obtain ⟨title, htitle⟩ := Text.eq_whole_of_isWhole h.name
  obtain ⟨version, hversion⟩ := Text.eq_whole_of_isWhole h.catalogVersion
  unfold checkWritable
  rw [h.artifact, htitle, hversion]
  rfl

def Fits (b : Blueprint) : Prop :=
  ∀ n ∈ b.nodes, ∀ version : Int, n.version = .int version →
    -(twoTo 63 : Int) ≤ version ∧ version < twoTo 63

theorem all_fits_iff (id : RecordId) {b : Blueprint}
    (hversions : ∀ n ∈ b.nodes, ∃ v : Int, n.version = .int v) :
    (b.nodes.mapIdx (moduleRow id)).all ModuleRow.fits = true ↔ Fits b := by
  rw [List.all_eq_true]
  constructor
  . intro hall n hn version hversion
    obtain ⟨k, hk, rfl⟩ := List.mem_iff_getElem.1 hn
    have hfits := hall (moduleRow id k b.nodes[k]) (List.mem_mapIdx.2 ⟨k, hk, rfl⟩)
    simpa [ModuleRow.fits, moduleRow, hversion] using hfits
  . intro hfits row hrow
    obtain ⟨k, hk, rfl⟩ := List.mem_mapIdx.1 hrow
    obtain ⟨v, hv⟩ := hversions b.nodes[k] (List.getElem_mem _)
    simpa [ModuleRow.fits, moduleRow, hv] using hfits _ (List.getElem_mem _) v hv

theorem all_fits_of_compiled (id : RecordId) (h : compiled t catalog description name = .ok c) :
    (c.blueprint.nodes.mapIdx (moduleRow id)).all ModuleRow.fits = true ↔ Fits c.blueprint :=
  all_fits_iff id fun n hn => (moduleType_of_compileText h n hn).2

/-- Of a blueprint there always are a document and a report; the record may not be writable yet. -/
theorem compose_of_compiled (archive : Archive) (h : compiled t catalog description name = .ok c) :
    ∃ report, c.blueprint.report archive.nextId.text (Resolution.fallbacks c.resolutions)
        (.string catalog.version) 0 = .ok report ∧
      archive.compose t catalog description name =
        archive.orFail (checkWritable c.blueprint.name (documentOf c.blueprint) catalog.version)
          fun _ =>
            if (c.blueprint.nodes.mapIdx (moduleRow archive.nextId)).all ModuleRow.fits then
              (archive.addComposed description c.blueprint (documentOf c.blueprint) report
                catalog.version).map id .ok
            else
              (archive.keepFile (documentOf c.blueprint), .error (.fault .wideNumber)) := by
  obtain ⟨report, hreport, -⟩ := Blueprint.report_eq
    (fun n hn => (moduleType_of_compileText h n hn).1) archive.nextId.text
    (Resolution.fallbacks c.resolutions) (.string catalog.version) 0
  refine ⟨report, hreport, ?_⟩
  unfold compose
  unfold compiled at h
  rw [h]
  dsimp only
  unfold keepComposed
  rw [toJson_of_compileText h, hreport]
  cases hcheck : checkWritable c.blueprint.name (documentOf c.blueprint) catalog.version with
  | ok _ => simp [orFail, hcheck, bind, Except.bind, pure, Except.pure]
  | error f => simp [orFail, hcheck, bind, Except.bind]

theorem compose_of_fits (archive : Archive)
    (hcompiled : compiled t catalog description name = .ok c)
    (h : IsWritable c.blueprint.name (documentOf c.blueprint) catalog.version)
    (hfits : Fits c.blueprint) :
    ∃ report, c.blueprint.report archive.nextId.text (Resolution.fallbacks c.resolutions)
        (.string catalog.version) 0 = .ok report ∧
      archive.compose t catalog description name =
        (archive.addComposed description c.blueprint (documentOf c.blueprint) report
          catalog.version).map id .ok := by
  obtain ⟨report, hreport, hcompose⟩ := compose_of_compiled archive hcompiled
  refine ⟨report, hreport, hcompose.trans ?_⟩
  rw [checkWritable_of_isWritable h]
  exact if_pos ((all_fits_of_compiled _ hcompiled).2 hfits)

theorem compose_of_not_fits (archive : Archive)
    (hcompiled : compiled t catalog description name = .ok c)
    (h : IsWritable c.blueprint.name (documentOf c.blueprint) catalog.version)
    (hfits : ¬Fits c.blueprint) :
    archive.compose t catalog description name =
      (archive.keepFile (documentOf c.blueprint), .error (.fault .wideNumber)) := by
  obtain ⟨report, -, hcompose⟩ := compose_of_compiled archive hcompiled
  refine hcompose.trans ?_
  rw [checkWritable_of_isWritable h]
  exact if_neg (mt (all_fits_of_compiled _ hcompiled).1 hfits)

theorem compose_of_not_isWritable (archive : Archive)
    (hcompiled : compiled t catalog description name = .ok c)
    (h : ¬IsWritable c.blueprint.name (documentOf c.blueprint) catalog.version) :
    ∃ f, archive.compose t catalog description name = (archive, .error (.fault f)) := by
  obtain ⟨report, -, hcompose⟩ := compose_of_compiled archive hcompiled
  rcases checkWritable_cases c.blueprint.name (documentOf c.blueprint) catalog.version with
    ⟨f, hf⟩ | ⟨-, hwritable⟩
  . rw [hf] at hcompose
    exact ⟨f, hcompose⟩
  . exact absurd hwritable h

inductive Composes (archive : Archive) (t : Tuning) (catalog : Catalog) (description : String)
    (name : Json) : Attempt → Prop where
  | failed (f : Compilation.Failure) (hinvalid : ∀ errors, f ≠ .invalid errors) :
    Composes archive t catalog description name (archive, .error f)
  | unfitting (c : Compilation) (hcompiled : compiled t catalog description name = .ok c)
      (hfits : ¬Fits c.blueprint) :
    Composes archive t catalog description name
      (archive.keepFile (documentOf c.blueprint), .error (.fault .wideNumber))
  | rejected (errors : List Text)
      (hcompiled : compiled t catalog description name = .error (.invalid errors))
      (hwritable : IsWritable (Compilation.blueprintName t description name) .null catalog.version) :
    Composes archive t catalog description name
      ((archive.addRejected (Compilation.blueprintName t description name) description errors
        catalog.version).map id .ok)
  | composed (c : Compilation) (report : Report)
      (hcompiled : compiled t catalog description name = .ok c)
      (hreport : c.blueprint.report archive.nextId.text (Resolution.fallbacks c.resolutions)
        (.string catalog.version) 0 = .ok report)
      (hwritable : IsWritable c.blueprint.name (documentOf c.blueprint) catalog.version)
      (hfits : Fits c.blueprint) :
    Composes archive t catalog description name
      ((archive.addComposed description c.blueprint (documentOf c.blueprint) report
        catalog.version).map id .ok)

theorem compose_composes (archive : Archive) (t : Tuning) (catalog : Catalog) (description : String)
    (name : Json) : Composes archive t catalog description name
      (archive.compose t catalog description name) := by
  cases hcompiled : compiled t catalog description name with
  | error f =>
    have hresult := hcompiled
    unfold compiled at hresult
    unfold compose
    rw [hresult]
    cases f with
    | invalid errors =>
      dsimp only
      unfold keepRejected
      rcases checkWritable_cases (Compilation.blueprintName t description name) .null
        catalog.version with ⟨f, hf⟩ | ⟨hok, hwritable⟩
      . rw [hf]
        exact .failed (.fault f) (by simp)
      . rw [hok]
        exact .rejected errors hcompiled hwritable
    | refused r => exact .failed (.refused r) (by simp)
    | fault f => exact .failed (.fault f) (by simp)
  | ok c =>
    by_cases hwritable : IsWritable c.blueprint.name (documentOf c.blueprint) catalog.version
    . by_cases hfits : Fits c.blueprint
      . obtain ⟨report, hreport, hcompose⟩ := compose_of_fits archive hcompiled hwritable hfits
        rw [hcompose]
        exact .composed c report hcompiled hreport hwritable hfits
      . rw [compose_of_not_fits archive hcompiled hwritable hfits]
        exact .unfitting c hcompiled hfits
    . obtain ⟨f, hcompose⟩ := compose_of_not_isWritable archive hcompiled hwritable
      rw [hcompose]
      exact .failed (.fault f) (by simp)

end Automation.Archive
