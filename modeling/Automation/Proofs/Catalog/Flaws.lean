import Automation.Catalog.Basic
import Automation.Proofs.Json.Coercion
import Automation.Proofs.Outcome

/-!
This module contains the flaws of catalog files in the order in which they are met. A file is
refused for the first of them, and a catalog is read from it where there is none: its text is the
document of an object in which every category has modules, every module operations and every
operation a version.
-/

namespace Automation.Catalog

section Flaws

def entryFlaws (application operation : Text) (info : Json) : List Failure :=
  match info.field "version" >>= Json.toInteger with
  | .ok _ => []
  | .error .infiniteInteger => [.fault .infiniteInteger]
  | .error _ => [.noVersion (application ++ "." ++ operation)]

def applicationFlaws (application : Text) (operations : Json) : List Failure :=
  match objectFields? operations with
  | some fields => fields.flatMap fun (operation, info) => entryFlaws application operation info
  | none => [.badApplication application]

def categoryFlaws (category : Text) (content : Json) : List Failure :=
  match (objectFields? content).bind fun fields => (fields.get? "modules").bind objectFields? with
  | some applications =>
    applications.flatMap fun (application, operations) => applicationFlaws application operations
  | none => [.noModules category]

def flaws (document : Json) : List Failure :=
  match document.asObject with
  | .error f => [.fault f]
  | .ok fields =>
    match (fields.get? "categories").bind objectFields? with
    | some categories =>
      categories.flatMap fun (category, content) => categoryFlaws category content
    | none => [.noCategories]

def fileFlaws : Option String → List Failure
  | some text =>
    match Json.ofText text with
    | .ok document => flaws document
    | .error .malformed => [.unreadable]
    | .error (.excess f) => [.fault f]
  | none => [.unreadable]

theorem failure?_readEntry (category application operation : Text) (info : Json) :
    failure? (readEntry category application operation info) =
      (entryFlaws application operation info).head? := by
  unfold readEntry entryFlaws
  cases info.field "version" >>= Json.toInteger with
  | ok version => rfl
  | error f => cases f <;> rfl

theorem failure?_readApplication (category application : Text) (found : List Entry)
    (operations : Json) : failure? (readApplication category application found operations) =
      (applicationFlaws application operations).head? := by
  unfold readApplication applicationFlaws
  cases objectFields? operations with
  | none => rfl
  | some fields =>
    apply failure?_foldlM
    rintro es ⟨operation, info⟩
    rw [← failure?_readEntry category]
    exact failure?_bind_pure _ _

theorem failure?_readCategory (category : Text) (found : List Entry) (content : Json) :
    failure? (readCategory category found content) = (categoryFlaws category content).head? := by
  unfold readCategory categoryFlaws
  cases (objectFields? content).bind fun fields => (fields.get? "modules").bind objectFields? with
  | none => rfl
  | some applications =>
    apply failure?_foldlM
    rintro es ⟨application, operations⟩
    exact failure?_readApplication category application es operations

theorem failure?_ofDocument (document : Json) :
    failure? (ofDocument document) = (flaws document).head? := by
  unfold ofDocument flaws
  cases document.asObject with
  | error f => rfl
  | ok fields =>
    dsimp only
    cases (fields.get? "categories").bind objectFields? with
    | none => rfl
    | some categories =>
      dsimp only
      rw [failure?_bind_pure]
      apply failure?_foldlM
      rintro es ⟨category, content⟩
      exact failure?_readCategory category es content

theorem failure?_ofFile (content : Option String) :
    failure? (ofFile content) = (fileFlaws content).head? := by
  cases content with
  | none => rfl
  | some text =>
    dsimp only [ofFile, ofText, fileFlaws]
    cases Json.ofText text with
    | ok document => exact failure?_ofDocument document
    | error r => cases r <;> rfl

end Flaws

section Acceptable

def IsVersioned (info : Json) : Prop :=
  ∃ fields version n, info = .object fields ∧ Fields.get? fields "version" = some version ∧
    version.toInteger = .ok n

def IsApplication (operations : Json) : Prop :=
  ∃ fields : Fields, operations = .object fields ∧ ∀ f ∈ fields, IsVersioned f.2

def IsCategory (content : Json) : Prop :=
  ∃ fields applications : Fields, content = .object fields ∧
    fields.get? "modules" = some (.object applications) ∧ ∀ f ∈ applications, IsApplication f.2

def IsCatalog (document : Json) : Prop :=
  ∃ fields categories : Fields, document = .object fields ∧
    fields.get? "categories" = some (.object categories) ∧ ∀ f ∈ categories, IsCategory f.2

/-- There is a file, and it holds the document of a catalog. -/
def IsAcceptable (content : Option String) : Prop :=
  ∃ text document, content = some text ∧ Json.ofText text = .ok document ∧ IsCatalog document

theorem objectFields?_eq_some_iff {v : Json} {fields : Fields} :
    objectFields? v = some fields ↔ v = .object fields := by
  cases v <;> simp [objectFields?]

theorem bind_objectFields?_eq_some_iff {v : Option Json} {fields : Fields} :
    v.bind objectFields? = some fields ↔ v = some (.object fields) := by
  cases v <;> simp [objectFields?_eq_some_iff]

theorem entryFlaws_eq_nil_iff {application operation : Text} {info : Json} :
    entryFlaws application operation info = [] ↔ IsVersioned info := by
  have hok : IsVersioned info ↔ ∃ n, (info.field "version" >>= Json.toInteger) = .ok n := by
    simp only [IsVersioned, bind_eq_ok, Json.field_eq_ok_iff]
    constructor
    . rintro ⟨fields, version, n, hinfo, hversion, hn⟩
      exact ⟨n, version, ⟨fields, hinfo, hversion⟩, hn⟩
    . rintro ⟨n, version, ⟨fields, hinfo, hversion⟩, hn⟩
      exact ⟨fields, version, n, hinfo, hversion, hn⟩
  rw [hok]
  unfold entryFlaws
  split <;> simp_all

theorem applicationFlaws_eq_nil_iff {application : Text} {operations : Json} :
    applicationFlaws application operations = [] ↔ IsApplication operations := by
  unfold applicationFlaws IsApplication
  split
  . rename_i fields h
    rw [objectFields?_eq_some_iff] at h
    simp [h, entryFlaws_eq_nil_iff]
  . rename_i h
    refine iff_of_false nofun ?_
    rintro ⟨fields, rfl, -⟩
    cases h

theorem categoryFlaws_eq_nil_iff {category : Text} {content : Json} :
    categoryFlaws category content = [] ↔ IsCategory content := by
  unfold categoryFlaws IsCategory
  split
  . rename_i applications h
    obtain ⟨fields, hfields, hmodules⟩ := Option.bind_eq_some_iff.1 h
    rw [objectFields?_eq_some_iff] at hfields
    rw [bind_objectFields?_eq_some_iff] at hmodules
    simp [hfields, hmodules, applicationFlaws_eq_nil_iff]
  . rename_i h
    refine iff_of_false nofun ?_
    rintro ⟨fields, applications, rfl, hmodules, -⟩
    simp [objectFields?, hmodules] at h

theorem flaws_eq_nil_iff {document : Json} : flaws document = [] ↔ IsCatalog document := by
  unfold flaws IsCatalog
  cases document with
  | object fields =>
    dsimp only [Json.asObject]
    split
    . rename_i categories h
      rw [bind_objectFields?_eq_some_iff] at h
      simp [h, categoryFlaws_eq_nil_iff]
    . rename_i h
      refine iff_of_false nofun ?_
      rintro ⟨fields, categories, ⟨⟩, hcategories, -⟩
      simp [objectFields?, hcategories] at h
  | _ => simp [Json.asObject]

theorem fileFlaws_eq_nil_iff {content : Option String} :
    fileFlaws content = [] ↔ IsAcceptable content := by
  unfold fileFlaws IsAcceptable
  cases content with
  | none => simp
  | some text =>
    dsimp only
    split
    . rename_i document h
      simp [h, flaws_eq_nil_iff]
    . rename_i h
      simp [h]
    . rename_i f h
      simp [h]

theorem exists_ofFile_iff (content : Option String) :
    (∃ catalog, ofFile content = .ok catalog) ↔ IsAcceptable content := by
  rw [← failure?_eq_none_iff, failure?_ofFile, List.head?_eq_none_iff, fileFlaws_eq_nil_iff]

theorem ofFile_eq_error_iff {content : Option String} {f : Failure} :
    ofFile content = .error f ↔ (fileFlaws content).head? = some f := by
  rw [← failure?_eq_some_iff, failure?_ofFile]

end Acceptable

end Automation.Catalog
